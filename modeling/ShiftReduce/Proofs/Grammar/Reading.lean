import Mathlib.Tactic.Common
import ShiftReduce.Grammar.Definition

/-!
# Reading definitions

A text holds definitions if its lines, joined where they go on, are made up of the lexemes of these.
They are read if all names are rule names and no alternative is empty.

## Main definitions

* `Definition.lexemes` — the lexemes of a definition
* `Definition.Holds` — the definitions that a text holds
* `Definition.IsReadable` — what makes a definition readable

## Main results

* `Definition.holds_of_ofText` — a text holds what is read of it
* `Definition.Holds.ofText_eq_ok_iff` — what is read of a text that holds definitions
-/

namespace ShiftReduce

/-- A sequence succeeds if both of its parts do. -/
theorem bind_eq_ok {ε α β : Type} {first : Except ε α} {next : α → Except ε β} {value : β} :
    first >>= next = .ok value ↔ ∃ middle, first = .ok middle ∧ next middle = .ok value := by
  cases first <;> simp [bind, Except.bind]

/-! ### Definitions and their lexemes -/

namespace Word

/-- The lexeme of a word. -/
def lexeme : Word → Bnf.Lexeme
  | .reference name => .reference name
  | .literal text => .literal text

/-- A rule name, or a literal. -/
def IsNamed : Word → Prop
  | .reference name => Definition.isName name = true
  | .literal _ => True

instance : (word : Word) → Decidable word.IsNamed
  | .reference name => inferInstanceAs (Decidable (Definition.isName name = true))
  | .literal _ => .isTrue trivial

end Word

namespace Definition

/-- The words of all alternatives. -/
def words (definition : Definition) : List Word := definition.alternatives.flatten

/-- The lexemes of a definition: its name, `::=` and its alternatives, with a bar between any two of
them. -/
def lexemes (definition : Definition) : List Bnf.Lexeme :=
  .reference definition.name :: .define ::
    [Bnf.Lexeme.pipe].intercalate (definition.alternatives.map (List.map Word.lexeme))

/-- A text holds some definitions, one after the other: the lines of each, joined, are made up of
its lexemes. -/
def Holds (text : String) (definitions : List Definition) : Prop :=
  (joinLines 1 [] (Text.lines text.toList)).map (List.map fun part => Bnf.lexemes part.2) =
    .ok (definitions.map fun definition => .ok definition.lexemes)

instance (text : String) (definitions : List Definition) : Decidable (Holds text definitions) :=
  inferInstanceAs (Decidable (_ = _))

/-- A definition has alternatives, none of which is empty. -/
def IsFilled (definition : Definition) : Prop :=
  definition.alternatives ≠ [] ∧ ∀ words ∈ definition.alternatives, words ≠ []

/-- All names are rule names, and there are alternatives, none of which is empty. -/
structure IsReadable (definition : Definition) : Prop where
  isName : isName definition.name = true
  isFilled : definition.IsFilled
  isNamed : ∀ word ∈ definition.words, word.IsNamed

instance (definition : Definition) : Decidable definition.IsFilled :=
  inferInstanceAs (Decidable (_ ∧ _))

instance (definition : Definition) : Decidable definition.IsReadable :=
  decidable_of_iff (Definition.isName definition.name = true ∧ definition.IsFilled ∧
      ∀ word ∈ definition.words, word.IsNamed)
    ⟨fun ⟨isName, isFilled, isNamed⟩ => ⟨isName, isFilled, isNamed⟩,
      fun readable => ⟨readable.isName, readable.isFilled, readable.isNamed⟩⟩

theorem checkName_eq_ok_iff {name : String} {result : Unit} :
    checkName name = .ok result ↔ Definition.isName name = true := by
  unfold checkName
  split
  · rename_i holds
    simp [holds]
  · rename_i fails
    simp [fails]

/-! ### Alternatives -/

variable {line : Nat}

theorem prepend_ne_nil (word : Word) (alternatives : List (List Word)) :
    prepend word alternatives ≠ [] := by
  cases alternatives <;> simp [prepend]

/-- What is read has at least one alternative. -/
theorem readAlternatives_ne_nil {lexemes : List Bnf.Lexeme}
    {alternatives : List (List Word)} (read : readAlternatives line lexemes = .ok alternatives) :
    alternatives ≠ [] := by
  cases lexemes with
  | nil =>
    obtain rfl := Except.ok.inj read
    exact List.cons_ne_nil [] []
  | cons lexeme rest =>
    cases lexeme with
    | pipe =>
      obtain ⟨others, -, same⟩ := bind_eq_ok.mp read
      obtain rfl := Except.ok.inj same
      exact List.cons_ne_nil [] others
    | reference name =>
      obtain ⟨_, -, read⟩ := bind_eq_ok.mp read
      obtain ⟨others, -, same⟩ := bind_eq_ok.mp read
      obtain rfl := Except.ok.inj same
      exact prepend_ne_nil _ others
    | literal text =>
      obtain ⟨others, -, same⟩ := bind_eq_ok.mp read
      obtain rfl := Except.ok.inj same
      exact prepend_ne_nil _ others
    | define => cases read

/-- Words are put in front of the first alternative. -/
theorem readAlternatives_append_eq_ok_iff {words : List Word} {rest : List Bnf.Lexeme}
    {alternatives : List (List Word)} :
    readAlternatives line (words.map Word.lexeme ++ rest) = .ok alternatives ↔
      (∀ word ∈ words, word.IsNamed) ∧ ∃ first others,
        readAlternatives line rest = .ok (first :: others) ∧
        alternatives = (words ++ first) :: others := by
  induction words generalizing alternatives with
  | nil =>
    constructor
    · intro found
      obtain ⟨first, others, rfl⟩ := List.exists_cons_of_ne_nil (readAlternatives_ne_nil found)
      exact ⟨nofun, first, others, found, rfl⟩
    · rintro ⟨-, first, others, found, rfl⟩
      exact found
  | cons word words ih =>
    rw [List.map_cons, List.cons_append, List.forall_mem_cons]
    cases word with
    | reference name =>
      simp only [Word.lexeme, readAlternatives, bind_eq_ok, checkName_eq_ok_iff, ih, Word.IsNamed,
        Except.ok.injEq]
      constructor
      · rintro ⟨-, named, _, ⟨others, first, rest, found, rfl⟩, rfl⟩
        exact ⟨⟨named, others⟩, first, rest, found, rfl⟩
      · rintro ⟨⟨named, others⟩, first, rest, found, rfl⟩
        exact ⟨(), named, _, ⟨others, first, rest, found, rfl⟩, rfl⟩
    | literal text =>
      simp only [Word.lexeme, readAlternatives, bind_eq_ok, ih, Word.IsNamed, Except.ok.injEq]
      constructor
      · rintro ⟨_, ⟨others, first, rest, found, rfl⟩, rfl⟩
        exact ⟨⟨trivial, others⟩, first, rest, found, rfl⟩
      · rintro ⟨⟨-, others⟩, first, rest, found, rfl⟩
        exact ⟨_, ⟨others, first, rest, found, rfl⟩, rfl⟩

/-- The lexemes of alternatives are read as these alternatives. -/
theorem readAlternatives_eq_ok_iff {alternatives found : List (List Word)}
    (nonempty : alternatives ≠ []) :
    readAlternatives line ([Bnf.Lexeme.pipe].intercalate
        (alternatives.map (List.map Word.lexeme))) = .ok found ↔
      (∀ word ∈ alternatives.flatten, word.IsNamed) ∧ found = alternatives := by
  induction alternatives generalizing found with
  | nil => exact absurd rfl nonempty
  | cons words rest ih =>
    rw [List.flatten_cons, List.forall_mem_append]
    cases rest with
    | nil =>
      rw [List.map_singleton, List.intercalate_singleton, ← List.append_nil (List.map _ words),
        readAlternatives_append_eq_ok_iff]
      simp [readAlternatives]
    | cons next rest =>
      rw [List.map_cons, List.map_cons, List.intercalate_cons_cons, List.append_assoc,
        readAlternatives_append_eq_ok_iff, List.singleton_append, ← List.map_cons]
      simp only [readAlternatives, bind_eq_ok, ih (List.cons_ne_nil next rest), Except.ok.injEq,
        List.cons.injEq]
      constructor
      · rintro ⟨named, _, _, ⟨_, ⟨others, rfl⟩, rfl, rfl⟩, rfl⟩
        exact ⟨⟨named, others⟩, by rw [List.append_nil]⟩
      · rintro ⟨⟨named, others⟩, rfl⟩
        exact ⟨named, _, _, ⟨_, ⟨others, rfl⟩, rfl, rfl⟩, by rw [List.append_nil]⟩

theorem intercalate_prepend (word : Word) {alternatives : List (List Word)}
    (nonempty : alternatives ≠ []) :
    [Bnf.Lexeme.pipe].intercalate ((prepend word alternatives).map (List.map Word.lexeme)) =
      word.lexeme :: [Bnf.Lexeme.pipe].intercalate (alternatives.map (List.map Word.lexeme)) := by
  obtain ⟨first, rest, rfl⟩ := List.exists_cons_of_ne_nil nonempty
  cases rest with
  | nil => simp [prepend]
  | cons next rest => simp [prepend, List.intercalate_cons_cons]

/-- What is read as alternatives are their lexemes. -/
theorem eq_intercalate_of_readAlternatives {lexemes : List Bnf.Lexeme}
    {alternatives : List (List Word)} (read : readAlternatives line lexemes = .ok alternatives) :
    lexemes = [Bnf.Lexeme.pipe].intercalate (alternatives.map (List.map Word.lexeme)) := by
  induction lexemes generalizing alternatives with
  | nil =>
    obtain rfl := Except.ok.inj read
    rfl
  | cons lexeme rest ih =>
    cases lexeme with
    | pipe =>
      obtain ⟨others, later, same⟩ := bind_eq_ok.mp read
      obtain rfl := Except.ok.inj same
      obtain ⟨first, more, rfl⟩ := List.exists_cons_of_ne_nil (readAlternatives_ne_nil later)
      rw [ih later, List.map_cons, List.map_cons, List.map_cons, List.intercalate_cons_cons]
      rfl
    | reference name =>
      obtain ⟨_, -, read⟩ := bind_eq_ok.mp read
      obtain ⟨others, later, same⟩ := bind_eq_ok.mp read
      obtain rfl := Except.ok.inj same
      rw [intercalate_prepend _ (readAlternatives_ne_nil later), ← ih later]
      rfl
    | literal text =>
      obtain ⟨others, later, same⟩ := bind_eq_ok.mp read
      obtain rfl := Except.ok.inj same
      rw [intercalate_prepend _ (readAlternatives_ne_nil later), ← ih later]
      rfl
    | define => cases read

/-! ### Definitions -/

/-- What is read as a definition are its lexemes. -/
theorem lexemes_eq_of_read {text : List Char} {definition : Definition}
    (found : read line text = .ok definition) : Bnf.lexemes text = .ok definition.lexemes := by
  unfold read at found
  split at found
  · cases found
  · rename_i lexed
    obtain ⟨_, -, found⟩ := bind_eq_ok.mp found
    obtain ⟨alternatives, known, found⟩ := bind_eq_ok.mp found
    split at found
    · cases found
    · obtain rfl := Except.ok.inj found
      rw [lexed, eq_intercalate_of_readAlternatives known]
      rfl
  · cases found

/-- The lexemes of a definition are read as this definition, if it is readable. -/
theorem read_eq_ok_iff {text : List Char} {definition found : Definition}
    (lexed : Bnf.lexemes text = .ok definition.lexemes) :
    read line text = .ok found ↔ definition.IsReadable ∧ found = definition := by
  unfold read
  rw [lexed]
  obtain ⟨name, alternatives⟩ := definition
  simp only [lexemes, bind_eq_ok, checkName_eq_ok_iff]
  constructor
  · rintro ⟨-, named, others, known, rest⟩
    split at rest
    · cases rest
    · rename_i filled
      obtain rfl := Except.ok.inj rest
      have nonempty : alternatives ≠ [] := by
        rintro rfl
        obtain rfl := Except.ok.inj known
        exact filled rfl
      obtain ⟨wordsNamed, rfl⟩ := (readAlternatives_eq_ok_iff nonempty).mp known
      refine ⟨⟨named, ⟨nonempty, fun words present empty => filled ?_⟩, wordsNamed⟩, rfl⟩
      exact List.any_eq_true.mpr ⟨words, present, List.isEmpty_iff.mpr empty⟩
  · rintro ⟨⟨named, ⟨nonempty, filled⟩, wordsNamed⟩, rfl⟩
    refine ⟨(), named, alternatives,
      (readAlternatives_eq_ok_iff nonempty).mpr ⟨wordsNamed, rfl⟩, ?_⟩
    rw [if_neg]
    intro empty
    obtain ⟨words, present, isEmpty⟩ := List.any_eq_true.mp empty
    exact filled words present (List.isEmpty_iff.mp isEmpty)

/-- A text holds what is read of it. -/
theorem holds_of_ofText {text : String} {definitions : List Definition}
    (found : ofText text = .ok definitions) : Holds text definitions := by
  obtain ⟨joined, lines, read⟩ := bind_eq_ok.mp found
  rw [Holds, lines]
  refine congrArg Except.ok ?_
  clear lines found
  induction joined generalizing definitions with
  | nil =>
    obtain rfl := Except.ok.inj read
    rfl
  | cons part rest ih =>
    rw [List.mapM_cons] at read
    obtain ⟨definition, now, remaining⟩ := bind_eq_ok.mp read
    obtain ⟨others, later, same⟩ := bind_eq_ok.mp remaining
    obtain rfl := Except.ok.inj same
    rw [List.map_cons, List.map_cons, lexemes_eq_of_read now, ih later]

/-- A text that holds definitions is read as these definitions, if they are readable. -/
theorem Holds.ofText_eq_ok_iff {text : String} {definitions found : List Definition}
    (holds : Holds text definitions) :
    ofText text = .ok found ↔
      (∀ definition ∈ definitions, definition.IsReadable) ∧ found = definitions := by
  obtain ⟨joined, lines⟩ : ∃ joined, joinLines 1 [] (Text.lines text.toList) = .ok joined := by
    rcases lines : joinLines 1 [] (Text.lines text.toList) with _ | joined
    · rw [Holds, lines] at holds
      cases holds
    · exact ⟨joined, rfl⟩
  rw [Holds, lines] at holds
  have parts := Except.ok.inj holds
  unfold ofText
  rw [lines, bind_eq_ok]
  simp only [Except.ok.injEq, exists_eq_left']
  clear lines holds
  induction definitions generalizing joined found with
  | nil =>
    rw [List.map_nil, List.map_eq_nil_iff] at parts
    simp [parts, pure, Except.pure, eq_comm]
  | cons definition rest ih =>
    obtain ⟨part, remaining, rfl, lexed, same⟩ := List.map_eq_cons_iff.mp parts
    rw [List.mapM_cons, bind_eq_ok, List.forall_mem_cons]
    constructor
    · rintro ⟨first, now, behind⟩
      obtain ⟨others, later, whole⟩ := bind_eq_ok.mp behind
      obtain rfl := Except.ok.inj whole
      obtain ⟨readable, rfl⟩ := (read_eq_ok_iff lexed).mp now
      obtain ⟨othersReadable, rfl⟩ := (ih _ same).mp later
      exact ⟨⟨readable, othersReadable⟩, rfl⟩
    · rintro ⟨⟨readable, othersReadable⟩, rfl⟩
      exact ⟨_, (read_eq_ok_iff lexed).mpr ⟨readable, rfl⟩,
        bind_eq_ok.mpr ⟨_, (ih _ same).mpr ⟨othersReadable, rfl⟩, rfl⟩⟩

/-- What is read is readable. -/
theorem isReadable_of_ofText {text : String} {definitions : List Definition}
    (found : ofText text = .ok definitions) :
    ∀ definition ∈ definitions, definition.IsReadable :=
  ((holds_of_ofText found).ofText_eq_ok_iff.mp found).1

end Definition

end ShiftReduce
