import Mathlib.Data.List.Basic
import NativeDeps.Proofs.Nix.Literal
import NativeDeps.Provisioner

/-!
# The build inputs of a Nix expression

The build inputs stand between the opening bracket of their list and the line that
closes it, and blanks part them.  The package set and the name of the project may hold
anything, also text that looks like a list of inputs, so an expression is read from its
beginning: the heading, the name as a literal, and only then the list.

An attribute path is written as it is.  Reading the list gives back the paths exactly
if every path is one word, that is, if it is not empty and holds no blank.  Validation
does not ask for that, so an accepted identifier can split an input in two.
-/

namespace NativeDeps

namespace Spelling

/-- Whether a text is one word. -/
def IsWord (text : Spelling) : Prop :=
  text ≠ [] ∧ ∀ letter ∈ text, letter.isBlank = false

/-- A word that is over; blanks in a row have no word between them. -/
def finishedWord (word : Spelling) : List Spelling :=
  if word.isEmpty then [] else [word]

/-- The words of a text behind the beginning of a word. -/
def wordsFrom (word : Spelling) : Spelling → List Spelling
  | [] => finishedWord word
  | letter :: rest =>
      if letter.isBlank then
        finishedWord word ++ wordsFrom [] rest
      else
        wordsFrom (word ++ [letter]) rest

/-- The words of a text, which are parted by blanks. -/
def words (text : Spelling) : List Spelling :=
  wordsFrom [] text

theorem isWord_of_mem_finishedWord
    {word other : Spelling}
    (noBlank : ∀ letter ∈ word, letter.isBlank = false)
    (member : other ∈ finishedWord word) :
    IsWord other := by
  rw [finishedWord] at member
  split_ifs at member with isEmpty
  · simp at member
  · obtain rfl := List.mem_singleton.1 member
    exact ⟨by simpa using isEmpty, noBlank⟩

theorem isWord_of_mem_wordsFrom
    {word text other : Spelling}
    (noBlank : ∀ letter ∈ word, letter.isBlank = false)
    (member : other ∈ wordsFrom word text) :
    IsWord other := by
  induction text generalizing word with
  | nil => exact isWord_of_mem_finishedWord noBlank member
  | cons letter rest induction =>
      rw [wordsFrom] at member
      split_ifs at member with blank
      · rcases List.mem_append.1 member with finished | later
        · exact isWord_of_mem_finishedWord noBlank finished
        · exact induction (by simp) later
      · apply induction _ member
        intro inner inWord
        rcases List.mem_append.1 inWord with inside | last
        · exact noBlank inner inside
        · obtain rfl := List.mem_singleton.1 last
          simpa using blank

theorem isWord_of_mem_words
    {text word : Spelling} (member : word ∈ words text) :
    IsWord word :=
  isWord_of_mem_wordsFrom (by simp) member

theorem wordsFrom_append_blank
    {blank : Letter} (isBlank : blank.isBlank = true)
    (word left right : Spelling) :
    wordsFrom word (left ++ blank :: right) =
      wordsFrom word left ++ words right := by
  induction left generalizing word with
  | nil => simp [wordsFrom, words, isBlank]
  | cons letter rest induction =>
      simp only [List.cons_append, wordsFrom, induction]
      split_ifs with _
      · rw [List.append_assoc]
      · rfl

theorem wordsFrom_of_no_blank
    (word : Spelling) {text : Spelling}
    (noBlank : ∀ letter ∈ text, letter.isBlank = false) :
    wordsFrom word text = finishedWord (word ++ text) := by
  induction text generalizing word with
  | nil => simp [wordsFrom]
  | cons letter rest induction =>
      have isLetter := noBlank letter List.mem_cons_self
      have restLetters :=
        fun other member => noBlank other (List.mem_cons_of_mem _ member)
      rw [wordsFrom, if_neg (by simp [isLetter]), induction _ restLetters]
      simp

theorem words_of_isWord {text : Spelling} (isWord : IsWord text) :
    words text = [text] := by
  rw [words, wordsFrom_of_no_blank [] isWord.2]
  simp [finishedWord, isWord.1]

end Spelling

namespace Nix

/-- The text behind a mark with which it has to begin. -/
def after? (mark text : Spelling) : Option Spelling :=
  if mark.isPrefixOf text then some (text.drop mark.length) else none

@[simp]
theorem after?_append (mark rest : Spelling) :
    after? mark (mark ++ rest) = some rest := by
  simp [after?]

/-- The text in front of the first occurrence of a mark. -/
def before? (mark : Spelling) : Spelling → Option Spelling
  | [] => none
  | letter :: rest =>
      if mark.isPrefixOf (letter :: rest) then
        some []
      else
        (before? mark rest).map (letter :: ·)

def lineEnd : Letter := .char '\n'

/-- An expression up to the opening quote of the name of the project. -/
def heading (packages : Spelling) : Spelling :=
  "with import " ++ packages ++
    " \x7b\x7d;\n\nstdenv.mkDerivation \x7b\n  name = \""

/-- What stands between the name and the items of a list of inputs. -/
def opening : Spelling :=
  ";\n  buildInputs = with pkgs; ["

/-- What stands between the name and the content of a list without inputs. -/
def emptyOpening : Spelling :=
  ";\n  buildInputs = ["

/-- The line that closes a list of inputs, with the line ends around it. -/
def closingLine : Spelling :=
  "\n  ];\n"

/-- The text between the brackets of the list of inputs behind the name. -/
def listedText? (text : Spelling) : Option Spelling :=
  match after? opening text with
  | some items => before? closingLine items
  | none => (after? emptyOpening text).bind (before? "];\n")

/--
The text between the opening bracket of the inputs and the line that closes them, in an
expression for a package set.
-/
def inputText? (packages text : Spelling) : Option Spelling :=
  match (after? (heading packages) text).map readLiteral with
  | some (.closed _ rest) => listedText? rest
  | _ => none

/-- The inputs of an expression for a package set, as blanks part them. -/
def inputWords? (packages expression : Spelling) : Option (List Spelling) :=
  (inputText? packages expression).map Spelling.words

def itemLines (paths : List Spelling) : Spelling :=
  paths.flatMap fun path => lineEnd :: inputLine path

theorem itemLines_cons (path : Spelling) (paths : List Spelling) :
    itemLines (path :: paths) =
      lineEnd :: inputLine path ++ itemLines paths :=
  List.flatMap_cons

/-- Everything behind the name of the project. -/
def listing (paths : List Spelling) : Spelling :=
  if paths.isEmpty then
    emptyOpening ++ " ];\n\x7d\n"
  else
    opening ++ itemLines paths ++ closingLine ++ "\x7d\n"

def linesText (lines : List Spelling) : Spelling :=
  lines.flatMap fun line => line ++ [lineEnd]

theorem linesText_cons (line : Spelling) (lines : List Spelling) :
    linesText (line :: lines) = line ++ lineEnd :: linesText lines := by
  simp [linesText]

theorem linesText_append (left right : List Spelling) :
    linesText (left ++ right) = linesText left ++ linesText right :=
  List.flatMap_append

theorem intercalate_lines (line : Spelling) (lines : List Spelling) :
    List.intercalate "\n" (line :: lines) ++ "\n" =
      linesText (line :: lines) := by
  induction lines generalizing line with
  | nil => simp [linesText]; rfl
  | cons next rest induction =>
      rw [List.intercalate_cons_cons, List.append_assoc, induction,
        linesText_cons line, List.append_assoc]
      rfl

/-- The line end in front of the items can as well stand behind each of them. -/
theorem lineEnd_linesText_items (paths : List Spelling) :
    lineEnd :: linesText (paths.map inputLine) =
      itemLines paths ++ [lineEnd] := by
  induction paths with
  | nil => rfl
  | cons path rest induction =>
      rw [List.map_cons, linesText_cons, induction, itemLines_cons]
      simp only [List.append_assoc, List.cons_append]

/-- The lines of the inputs, behind the end of the line with the name. -/
theorem linesText_inputLines (paths : List Spelling) :
    .char ';' :: lineEnd :: linesText ((inputLines paths).concat "\x7d") =
      listing paths := by
  rw [inputLines, listing]
  split_ifs with noInputs
  · rfl
  · have regrouped :
        .char ';' :: lineEnd ::
            linesText
              ((.ofText "  buildInputs = with pkgs; [" ::
                (paths.map inputLine).concat "  ];").concat "\x7d") =
          opening ++ (lineEnd :: linesText (paths.map inputLine) ++
            "  ];\n\x7d\n") := by
      simp only [List.concat_eq_append, List.cons_append, List.append_assoc,
        linesText_cons, linesText_append]
      rfl
    rw [regrouped, lineEnd_linesText_items]
    simp only [List.append_assoc]
    rfl

theorem expression_eq (packages : Spelling) (set : DependencySet) :
    expression packages set =
      heading packages ++
        (escape set.name ++ .char '"' :: listing set.attributePaths) := by
  rw [expression, expressionLines, intercalate_lines]
  simp only [linesText_cons]
  rw [← linesText_inputLines, heading, List.append_assoc]
  simp only [literal, List.append_assoc, List.cons_append, List.nil_append]
  rfl

theorem before?_append_of_not_mem
    {first : Letter} {mark left : Spelling} (right : Spelling)
    (absent : first ∉ left) :
    before? (first :: mark) (left ++ right) =
      (before? (first :: mark) right).map (left ++ ·) := by
  induction left with
  | nil => simp
  | cons letter rest induction =>
      rw [List.mem_cons, not_or] at absent
      rcases absent with ⟨differs, restAbsent⟩
      rw [List.cons_append, before?, if_neg (by simp [differs]),
        induction restAbsent, Option.map_map]
      rfl

/-- The items are closed by the line behind the last of them, if they are words. -/
theorem before?_closingLine_itemLines
    {paths : List Spelling} (rest : Spelling)
    (areWords : ∀ path ∈ paths, Spelling.IsWord path) :
    before? closingLine (itemLines paths ++ (closingLine ++ rest)) =
      some (itemLines paths) := by
  induction paths with
  | nil => rfl
  | cons path others induction =>
      have oneLine : lineEnd ∉ inputLine path := by
        intro member
        rcases List.mem_append.1 member with inIndent | inPath
        · revert inIndent
          decide
        · have noBlank :=
            (areWords path List.mem_cons_self).2 lineEnd inPath
          revert noBlank
          decide
      have restClosed :=
        induction fun other member =>
          areWords other (List.mem_cons_of_mem _ member)
      have deeperThanClosing :
          closingLine.isPrefixOf
              (lineEnd :: (inputLine path ++
                (itemLines others ++ (closingLine ++ rest)))) =
            false := rfl
      have behindPath :
          before? closingLine
              (inputLine path ++
                (itemLines others ++ (closingLine ++ rest))) =
            some (inputLine path ++ itemLines others) := by
        have opensLine : closingLine = lineEnd :: "  ];\n" := rfl
        rw [opensLine, before?_append_of_not_mem _ oneLine, ← opensLine,
          restClosed]
        rfl
      rw [itemLines_cons, List.cons_append, List.cons_append,
        List.append_assoc, before?, deeperThanClosing, behindPath]
      rfl

theorem words_append_itemLines
    {paths : List Spelling} (left : Spelling)
    (areWords : ∀ path ∈ paths, Spelling.IsWord path) :
    Spelling.words (left ++ itemLines paths) =
      Spelling.words left ++ paths := by
  induction paths generalizing left with
  | nil => simp [itemLines]
  | cons path others induction =>
      have behindIndent :
          Spelling.words (inputLine path ++ itemLines others) =
            Spelling.words (path ++ itemLines others) := rfl
      have restWords :=
        induction path fun other member =>
          areWords other (List.mem_cons_of_mem _ member)
      have pathWord :=
        Spelling.words_of_isWord (areWords path List.mem_cons_self)
      rw [itemLines_cons, List.cons_append, Spelling.words,
        Spelling.wordsFrom_append_blank rfl, behindIndent, restWords, pathWord]
      rfl

theorem listedText?_listing
    {paths : List Spelling}
    (areWords : ∀ path ∈ paths, Spelling.IsWord path) :
    ∃ content,
      listedText? (listing paths) = some content ∧
        Spelling.words content = paths := by
  rw [listing]
  split_ifs with noInputs
  · refine ⟨[.char ' '], rfl, ?_⟩
    rw [List.isEmpty_iff.1 noInputs]
    rfl
  · refine ⟨itemLines paths, ?_, words_append_itemLines [] areWords⟩
    rw [List.append_assoc, List.append_assoc, listedText?, after?_append]
    exact before?_closingLine_itemLines _ areWords

theorem inputText?_expression (packages : Spelling) (set : DependencySet) :
    inputText? packages (expression packages set) =
      listedText? (listing set.attributePaths) := by
  rw [expression_eq, inputText?, after?_append, Option.map_some,
    readLiteral_escape]

/-- Reading the inputs of an expression gives back the paths if all are words. -/
theorem inputWords?_expression_iff
    (packages : Spelling) (set : DependencySet) :
    inputWords? packages (expression packages set) =
        some set.attributePaths ↔
      ∀ path ∈ set.attributePaths, Spelling.IsWord path := by
  rw [inputWords?, inputText?_expression]
  constructor
  · intro readBack path member
    rcases Option.map_eq_some_iff.1 readBack with ⟨content, _, inputs⟩
    rw [← inputs] at member
    exact Spelling.isWord_of_mem_words member
  · intro areWords
    rcases listedText?_listing areWords with ⟨content, listed, inputs⟩
    rw [listed, Option.map_some, inputs]

end Nix

namespace Provisioner

theorem render_nix
    {provisioner : Provisioner} {set : DependencySet} {text : Spelling}
    (isNix : provisioner.kind = .nix)
    (rendered : provisioner.render set = .ok text) :
    ∃ value packages,
      provisioner.setting "package_set" (.text "<nixpkgs>") = .ok value ∧
        value.written = .ok packages ∧
        text = Nix.expression packages set := by
  rw [render, isNix] at rendered
  cases setting :
      provisioner.setting "package_set" (.text "<nixpkgs>") with
  | error failure =>
      simp [setting, bind, Except.bind] at rendered
  | ok value =>
      cases written : value.written with
      | error failure =>
          simp [setting, written, bind, Except.bind] at rendered
      | ok packages =>
          simp only [setting, written, bind, Except.bind, pure, Except.pure,
            Except.ok.injEq] at rendered
          exact ⟨value, packages, rfl, written, rendered.symm⟩

/--
The inputs of a rendered expression are the attribute paths of the resolved set, one
for each dependency and in order, exactly if every path is one word.
-/
theorem inputWords?_render_iff
    (provisioner : Provisioner) (descriptor : Descriptor)
    (host : Option Spelling) (text : Spelling)
    (isNix : provisioner.kind = .nix)
    (rendered : provisioner.render (descriptor.resolve host) = .ok text) :
    ∃ value packages,
      provisioner.setting "package_set" (.text "<nixpkgs>") = .ok value ∧
        value.written = .ok packages ∧
        (Nix.inputWords? packages text =
            some (descriptor.resolve host).attributePaths ↔
          ∀ path ∈ (descriptor.resolve host).attributePaths,
            path ≠ "" ∧ ∀ letter ∈ path, letter.isBlank = false) := by
  obtain ⟨value, packages, setting, written, same⟩ :=
    render_nix isNix rendered
  refine ⟨value, packages, setting, written, ?_⟩
  rw [same, Nix.inputWords?_expression_iff]
  rfl

def plainNix : Provisioner :=
  make .nix .null (.ofString "work") false

/-- A project with one base dependency and a framework on Darwin. -/
def frameworkProject : Descriptor where
  name := "tool"
  base := ["zlib"]
  condition := ⟨["darwin"]⟩
  conditional := ["Security"]
  scope := some "darwin.frameworks"
  named := by decide
  lawful := by decide

/-- On Darwin both paths of the project are words, and both are read back. -/
theorem inputWords?_render_frameworkProject :
    ∃ text,
      plainNix.kind = .nix ∧
        plainNix.render (frameworkProject.resolve (some ("Darwin" : Spelling))) =
          .ok text ∧
        ∃ value packages,
          plainNix.setting "package_set" (.text "<nixpkgs>") = .ok value ∧
            value.written = .ok packages ∧
            (Nix.inputWords? packages text =
                some
                  (frameworkProject.resolve (some ("Darwin" : Spelling))).attributePaths ↔
              ∀ path ∈
                  (frameworkProject.resolve (some ("Darwin" : Spelling))).attributePaths,
                path ≠ "" ∧ ∀ letter ∈ path, letter.isBlank = false) :=
  ⟨_, rfl, rfl,
    inputWords?_render_iff plainNix frameworkProject (some ("Darwin" : Spelling)) _
      rfl rfl⟩

/-- A project with an identifier that holds a blank. -/
def spacedProject : Descriptor where
  name := "tool"
  base := ["zlib openssl"]
  condition := ⟨[]⟩
  conditional := []
  scope := none
  named := by decide
  lawful := by decide

/--
Validation accepts the identifier with the blank, and the expression then lists two
inputs for the one dependency.
-/
theorem accepted_identifier_splits_input :
    Descriptor.ofValue spacedProject.toValue = .ok spacedProject ∧
      (spacedProject.resolve none).attributePaths = ["zlib openssl"] ∧
      ∃ text,
        plainNix.render (spacedProject.resolve none) = .ok text ∧
          Nix.inputWords? "<nixpkgs>" text =
            some (["zlib", "openssl"] : List Spelling) := by
  refine ⟨rfl, rfl, _, rfl, ?_⟩
  decide +kernel

end Provisioner

end NativeDeps
