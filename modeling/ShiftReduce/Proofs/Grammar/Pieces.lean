import Mathlib.Data.List.TakeWhile
import ShiftReduce.Grammar.Bnf
import ShiftReduce.Proofs.Text.Codes

/-!
# The language of grammar text

Grammar text is made of pieces: separators, one character each, and lexemes in each way to write
them. No piece needs a separator to end, so that a text has its pieces in one way only. The texts
that have lexemes are those that are made of pieces, and no piece starts where reading fails.

## Main definitions

* `Bnf.Piece` — a separator, or a lexeme as it is written
* `Bnf.written`, `Bnf.meant` — the text of pieces, and the lexemes among them
* `Bnf.piece?` — what the first piece of a text means, and the text after it

## Main results

* `Bnf.piece?_eq_some_iff` — the first piece of a text
* `Bnf.prefixFree_text` — where a piece ends can be seen
* `Bnf.lexemes_written` — what is read from pieces
* `Bnf.exists_pieces` — each text is pieces up to a place where none starts
* `Bnf.tokenize_iff_pieces` — which texts have lexemes, and where the others fail
-/

namespace ShiftReduce.Bnf

/-- A piece of grammar text: a separator, or a lexeme as it is written. Names are in angle brackets,
literals in quotes, and what ends them does not occur in them. -/
inductive Piece
  | separator (char : Char) (listed : char ∈ [' ', '\t', '\r', '\n', '\x0C'])
  | define
  | pipe
  | reference (name : String) (noOpening : '<' ∉ name.toList) (noClosing : '>' ∉ name.toList)
  | literal (quote : Char) (isQuote : quote = '"' ∨ quote = '\'') (text : String)
      (absent : quote ∉ text.toList)

/-- How a piece is written. -/
def Piece.text : Piece → List Char
  | .separator char _ => [char]
  | .define => [':', ':', '=']
  | .pipe => ['|']
  | .reference name _ _ => '<' :: name.toList ++ ['>']
  | .literal quote _ inner _ => quote :: inner.toList ++ [quote]

/-- The lexeme that is written, without brackets and quotes. Separators are none. -/
def Piece.meaning : Piece → Option Lexeme
  | .separator _ _ => none
  | .define => some .define
  | .pipe => some .pipe
  | .reference name _ _ => some (.reference name)
  | .literal _ _ inner _ => some (.literal inner)

/-- Pieces behind each other. -/
def written (pieces : List Piece) : List Char := pieces.flatMap Piece.text

/-- The lexemes among the pieces. -/
def meant (pieces : List Piece) : List Lexeme := pieces.filterMap Piece.meaning

@[simp] theorem written_nil : written [] = [] := rfl

@[simp] theorem written_cons (piece : Piece) (pieces : List Piece) :
    written (piece :: pieces) = piece.text ++ written pieces := rfl

@[simp] theorem meant_nil : meant [] = [] := rfl

theorem meant_cons (piece : Piece) (pieces : List Piece) :
    meant (piece :: pieces) = piece.meaning.toList ++ meant pieces := by
  unfold meant
  cases means : piece.meaning with
  | none => rw [List.filterMap_cons_none means]; rfl
  | some lexeme => rw [List.filterMap_cons_some means]; rfl

@[simp] theorem written_append (before after : List Piece) :
    written (before ++ after) = written before ++ written after :=
  List.flatMap_append

@[simp] theorem meant_append (before after : List Piece) :
    meant (before ++ after) = meant before ++ meant after :=
  List.filterMap_append

theorem Piece.text_ne_nil (piece : Piece) : piece.text ≠ [] := by
  cases piece <;> exact List.cons_ne_nil _ _

/-- Pieces that are written the same and mean the same are the same. -/
theorem Piece.ext_text {left right : Piece} (texts : left.text = right.text)
    (meanings : left.meaning = right.meaning) : left = right := by
  cases left <;> cases right <;> simp_all [Piece.text, Piece.meaning]

/-! ### Enclosed texts -/

theorem enclosed_eq_some_iff {stops : Char → Bool} {close : Char} {text rest : List Char}
    {inner : String} : enclosed stops close text = some (inner, rest) ↔
      text = inner.toList ++ close :: rest ∧ stops close = true ∧
        ∀ char ∈ inner.toList, stops char = false := by
  unfold enclosed
  constructor
  · intro found
    have parts := List.takeWhile_append_dropWhile (p := fun char => !stops char) (l := text)
    split at found
    · cases found
    · rename_i stop after behind
      rw [behind] at parts
      have isStop := List.head?_dropWhile_not (fun char => !stops char) text
      rw [behind] at isStop
      split_ifs at found with same
      cases found
      subst same
      refine ⟨by rw [String.toList_ofList, parts], by simpa using isStop, ?_⟩
      intro char present
      rw [String.toList_ofList] at present
      simpa using List.mem_takeWhile_imp present
  · rintro ⟨rfl, closes, inside⟩
    have skipped : ∀ char ∈ inner.toList, (!stops char) = true := by simpa using inside
    rw [List.dropWhile_append_of_pos skipped, List.takeWhile_append_of_pos skipped]
    simp [closes]

/-! ### The first piece of a text -/

/-- What the first piece of a text means, and the text after it. -/
def piece? : List Char → Option (Option Lexeme × List Char)
  | [] => none
  | first :: rest =>
    if isSeparator first then some (none, rest)
    else (lexeme? first rest).map fun (lexeme, rest) => (some lexeme, rest)

theorem isSeparator_iff {char : Char} :
    isSeparator char = true ↔ char ∈ [' ', '\t', '\r', '\n', '\x0C'] := by
  simp [isSeparator, or_assoc]

theorem piece?_cons_of_isSeparator {first : Char} (separates : isSeparator first = true)
    (rest : List Char) : piece? (first :: rest) = some (none, rest) :=
  if_pos separates

theorem piece?_cons_of_not_isSeparator {first : Char} (starts : ¬isSeparator first = true)
    (rest : List Char) : piece? (first :: rest) =
      (lexeme? first rest).map fun (lexeme, rest) => (some lexeme, rest) :=
  if_neg starts

/-- The first piece of a text is a separator or a lexeme. -/
theorem piece?_cases {text behind : List Char} {meaning : Option Lexeme}
    (found : piece? text = some (meaning, behind)) :
    (∃ first, isSeparator first = true ∧ text = first :: behind ∧ meaning = none) ∨
      ∃ first rest lexeme, ¬isSeparator first = true ∧ text = first :: rest ∧
        lexeme? first rest = some (lexeme, behind) ∧ meaning = some lexeme := by
  cases text with
  | nil => cases found
  | cons first rest =>
    by_cases separates : isSeparator first = true
    · rw [piece?_cons_of_isSeparator separates] at found
      cases found
      exact .inl ⟨first, separates, rfl, rfl⟩
    · rw [piece?_cons_of_not_isSeparator separates] at found
      obtain ⟨⟨lexeme, after⟩, read, same⟩ := Option.map_eq_some_iff.mp found
      cases same
      exact .inr ⟨first, rest, lexeme, separates, rfl, read, rfl⟩

/-- A piece is seen as the first of each text that it starts. -/
theorem piece?_text_append (piece : Piece) (behind : List Char) :
    piece? (piece.text ++ behind) = some (piece.meaning, behind) := by
  cases piece with
  | separator char listed => simp [Piece.text, Piece.meaning, piece?, isSeparator_iff.mpr listed]
  | define => rfl
  | pipe => rfl
  | reference name noOpening noClosing =>
    have closed : enclosed (fun char => char == '<' || char == '>') '>'
        (name.toList ++ '>' :: behind) = some (name, behind) := by
      apply enclosed_eq_some_iff.mpr
      refine ⟨rfl, by decide, fun char present => ?_⟩
      simp [ne_of_mem_of_not_mem present noOpening, ne_of_mem_of_not_mem present noClosing]
    have starts : isSeparator '<' = false := by decide
    simp [Piece.text, Piece.meaning, piece?, starts, lexeme?, closed]
  | literal quote isQuote inner absent =>
    have closed : enclosed (· == quote) quote (inner.toList ++ quote :: behind) =
        some (inner, behind) := by
      apply enclosed_eq_some_iff.mpr
      refine ⟨rfl, by simp, fun char present => ?_⟩
      simpa using ne_of_mem_of_not_mem present absent
    have starts : isSeparator quote = false := by
      obtain rfl | rfl := isQuote <;> decide
    have read : lexeme? quote (inner.toList ++ quote :: behind) =
        some (.literal inner, behind) := by
      obtain rfl | rfl := isQuote <;> simp [lexeme?, closed]
    simp [Piece.text, Piece.meaning, piece?, starts, read]

/-- An enclosed text is the literal of a piece. -/
theorem exists_piece_of_enclosed {quote : Char} (isQuote : quote = '"' ∨ quote = '\'')
    {text rest : List Char} {inner : String}
    (closed : enclosed (· == quote) quote text = some (inner, rest)) :
    ∃ piece : Piece, piece.meaning = some (.literal inner) ∧
      quote :: text = piece.text ++ rest := by
  obtain ⟨rfl, -, inside⟩ := enclosed_eq_some_iff.mp closed
  have absent : quote ∉ inner.toList := fun present => by simpa using inside quote present
  exact ⟨.literal quote isQuote inner absent, rfl, by simp [Piece.text]⟩

/-- A lexeme is read from a piece that means it. -/
theorem exists_piece_of_lexeme? {first : Char} {text rest : List Char} {lexeme : Lexeme}
    (found : lexeme? first text = some (lexeme, rest)) :
    ∃ piece : Piece, piece.meaning = some lexeme ∧ first :: text = piece.text ++ rest := by
  unfold lexeme? at found
  split at found
  · cases found
    exact ⟨.pipe, rfl, rfl⟩
  · split at found
    · cases found
      exact ⟨.define, rfl, rfl⟩
    · cases found
  · obtain ⟨⟨name, after⟩, closed, same⟩ := Option.map_eq_some_iff.mp found
    cases same
    obtain ⟨rfl, -, inside⟩ := enclosed_eq_some_iff.mp closed
    refine ⟨.reference name ?_ ?_, rfl, by simp [Piece.text]⟩
    · exact fun present => absurd (inside _ present) (by decide)
    · exact fun present => absurd (inside _ present) (by decide)
  · obtain ⟨⟨inner, after⟩, closed, same⟩ := Option.map_eq_some_iff.mp found
    cases same
    exact exists_piece_of_enclosed (.inl rfl) closed
  · obtain ⟨⟨inner, after⟩, closed, same⟩ := Option.map_eq_some_iff.mp found
    cases same
    exact exists_piece_of_enclosed (.inr rfl) closed
  · cases found

/-- What is seen as the first piece of a text is one. -/
theorem piece?_eq_some_iff {text behind : List Char} {meaning : Option Lexeme} :
    piece? text = some (meaning, behind) ↔
      ∃ piece : Piece, piece.meaning = meaning ∧ text = piece.text ++ behind := by
  constructor
  · intro found
    obtain ⟨first, separates, rfl, rfl⟩ | ⟨first, rest, lexeme, -, rfl, read, rfl⟩ :=
      piece?_cases found
    · exact ⟨.separator first (isSeparator_iff.mp separates), rfl, rfl⟩
    · exact exists_piece_of_lexeme? read
  · rintro ⟨piece, rfl, rfl⟩
    exact piece?_text_append piece behind

/-- Where no first piece is seen, none starts. -/
theorem piece?_eq_none_iff {text : List Char} :
    piece? text = none ↔ ∀ piece : Piece, ¬piece.text <+: text := by
  constructor
  · rintro missing piece ⟨behind, rfl⟩
    rw [piece?_text_append] at missing
    cases missing
  · intro missing
    by_contra found
    obtain ⟨⟨meaning, behind⟩, found⟩ := Option.ne_none_iff_exists'.mp found
    obtain ⟨piece, -, rfl⟩ := piece?_eq_some_iff.mp found
    exact missing piece (List.prefix_append _ _)

/-- Where a piece ends can be seen. -/
theorem prefixFree_text : Text.PrefixFree Piece.text := by
  intro left right behind other same
  have first := piece?_text_append left behind
  rw [same, piece?_text_append] at first
  simp only [Option.some.injEq, Prod.mk.injEq] at first
  obtain ⟨meanings, rfl⟩ := first
  exact ⟨Piece.ext_text (List.append_cancel_right same) meanings.symm, rfl⟩

theorem written_injective : Function.Injective written :=
  prefixFree_text.flatMap_injective Piece.text_ne_nil

/-! ### Reading piece by piece -/

theorem lexemes_cons_of_isSeparator {first : Char} (separates : isSeparator first = true)
    (text : List Char) : lexemes (first :: text) = lexemes text := by
  rw [lexemes, if_pos separates]

theorem lexemes_cons_of_lexeme? {first : Char} {text rest : List Char} {lexeme : Lexeme}
    (starts : ¬isSeparator first = true) (found : lexeme? first text = some (lexeme, rest)) :
    lexemes (first :: text) = (lexemes rest).map (lexeme :: ·) := by
  rw [lexemes, if_neg starts]
  split
  · rename_i missing
    rw [found] at missing
    cases missing
  · rename_i other after again
    rw [found] at again
    cases again
    cases lexemes rest <;> rfl

/-- One step of reading. -/
theorem lexemes_of_piece? {text behind : List Char} {meaning : Option Lexeme}
    (found : piece? text = some (meaning, behind)) :
    lexemes text = (lexemes behind).map (meaning.toList ++ ·) := by
  obtain ⟨first, separates, rfl, rfl⟩ | ⟨first, rest, lexeme, starts, rfl, read, rfl⟩ :=
    piece?_cases found
  · rw [lexemes_cons_of_isSeparator separates]
    cases lexemes behind <;> rfl
  · exact lexemes_cons_of_lexeme? starts read

/-- Reading fails where no piece starts. -/
theorem lexemes_of_piece?_eq_none {text : List Char} (missing : piece? text = none)
    (more : text ≠ []) : lexemes text = .error text := by
  cases text with
  | nil => exact absurd rfl more
  | cons first rest =>
    by_cases separates : isSeparator first = true
    · rw [piece?_cons_of_isSeparator separates] at missing
      cases missing
    · rw [piece?_cons_of_not_isSeparator separates, Option.map_eq_none_iff] at missing
      rw [lexemes, if_neg separates]
      split
      · rfl
      · rename_i found
        rw [missing] at found
        cases found

/-- From pieces, their lexemes are read, and then what follows. -/
theorem lexemes_written_append (pieces : List Piece) (behind : List Char) :
    lexemes (written pieces ++ behind) = (lexemes behind).map (meant pieces ++ ·) := by
  induction pieces with
  | nil =>
    rw [written_nil, List.nil_append]
    cases lexemes behind <;> rfl
  | cons piece pieces ih =>
    rw [written_cons, List.append_assoc, lexemes_of_piece? (piece?_text_append piece _), ih,
      meant_cons]
    cases lexemes behind <;> simp [Except.map]

theorem lexemes_written (pieces : List Piece) : lexemes (written pieces) = .ok (meant pieces) := by
  have read := lexemes_written_append pieces []
  rw [List.append_nil, lexemes] at read
  simpa [Except.map] using read

/-- Each text is made of pieces, up to a place where none starts. -/
theorem exists_pieces (text : List Char) :
    ∃ pieces unread, text = written pieces ++ unread ∧ piece? unread = none := by
  induction size : text.length using Nat.strongRecOn generalizing text with
  | ind length ih =>
    cases found : piece? text with
    | none => exact ⟨[], text, rfl, found⟩
    | some first =>
      -- No piece is empty, so what is left behind the first one is shorter.
      obtain ⟨piece, -, rfl⟩ := piece?_eq_some_iff.mp found
      have shorter : first.2.length < length := by
        have positive := List.length_pos_of_ne_nil piece.text_ne_nil
        rw [List.length_append] at size
        omega
      obtain ⟨pieces, unread, parts, stuck⟩ := ih _ shorter first.2 rfl
      exact ⟨piece :: pieces, unread, by rw [written_cons, List.append_assoc, ← parts], stuck⟩

/-- The lexemes of a text are those of the pieces that make it. -/
theorem lexemes_eq_ok_iff {text : List Char} {found : List Lexeme} :
    lexemes text = .ok found ↔ ∃ pieces, text = written pieces ∧ meant pieces = found := by
  constructor
  · intro lexed
    obtain ⟨pieces, unread, rfl, stuck⟩ := exists_pieces text
    by_cases more : unread = []
    · subst more
      rw [List.append_nil, lexemes_written] at lexed
      exact ⟨pieces, List.append_nil _, Except.ok.inj lexed⟩
    · rw [lexemes_written_append, lexemes_of_piece?_eq_none stuck more] at lexed
      cases lexed
  · rintro ⟨pieces, rfl, rfl⟩
    exact lexemes_written pieces

/-- Reading a text fails at the first place where no piece starts. -/
theorem lexemes_eq_error_iff {text unread : List Char} :
    lexemes text = .error unread ↔
      ∃ pieces, text = written pieces ++ unread ∧ unread ≠ [] ∧ piece? unread = none := by
  constructor
  · intro failed
    obtain ⟨pieces, behind, rfl, stuck⟩ := exists_pieces text
    by_cases more : behind = []
    · subst more
      rw [List.append_nil, lexemes_written] at failed
      cases failed
    · rw [lexemes_written_append, lexemes_of_piece?_eq_none stuck more] at failed
      cases failed
      exact ⟨pieces, rfl, more, stuck⟩
  · rintro ⟨pieces, rfl, more, stuck⟩
    rw [lexemes_written_append, lexemes_of_piece?_eq_none stuck more]
    rfl

theorem tokenize_eq_ok_iff {text : String} {found : List Lexeme} :
    tokenize text = .ok found ↔ lexemes text.toList = .ok found := by
  unfold tokenize
  cases lexemes text.toList <;> simp

theorem tokenize_eq_error_iff {text : String} {offset : Nat} :
    tokenize text = .error offset ↔ ∃ unread, lexemes text.toList = .error unread ∧
      offset = Text.byteLength text.toList - Text.byteLength unread := by
  unfold tokenize
  cases lexemes text.toList <;> simp [eq_comm]

/-! ### The first lexemes -/

theorem firstLexeme?_cons_of_isSeparator {first : Char} (separates : isSeparator first = true)
    (text : List Char) : firstLexeme? (first :: text) = firstLexeme? text := by
  rw [firstLexeme?, List.dropWhile_cons_of_pos separates, ← firstLexeme?]

/-- Separators before the first lexeme are passed over. -/
theorem firstLexeme?_of_separator {text behind : List Char}
    (found : piece? text = some (none, behind)) : firstLexeme? text = firstLexeme? behind := by
  obtain ⟨first, separates, rfl, -⟩ | ⟨_, _, _, _, _, _, other⟩ := piece?_cases found
  · exact firstLexeme?_cons_of_isSeparator separates behind
  · cases other

/-- A lexeme that is the first piece is the first lexeme. -/
theorem firstLexeme?_of_lexeme {text behind : List Char} {lexeme : Lexeme}
    (found : piece? text = some (some lexeme, behind)) :
    firstLexeme? text = some (lexeme, behind) := by
  obtain ⟨_, _, _, other⟩ | ⟨first, rest, _, starts, rfl, read, same⟩ := piece?_cases found
  · cases other
  · cases same
    rw [firstLexeme?, List.dropWhile_cons_of_neg starts]
    exact read

/-- The first lexeme among pieces is found, whatever follows them. -/
theorem firstLexeme?_written_append {pieces : List Piece} {lexeme : Lexeme} {others : List Lexeme}
    (means : meant pieces = lexeme :: others) : ∃ later, meant later = others ∧ ∀ behind,
      firstLexeme? (written pieces ++ behind) = some (lexeme, written later ++ behind) := by
  induction pieces with
  | nil => cases means
  | cons piece pieces ih =>
    have first (behind : List Char) := piece?_text_append piece (written pieces ++ behind)
    rw [meant_cons] at means
    simp only [written_cons, List.append_assoc]
    cases meaning : piece.meaning with
    | none =>
      rw [meaning] at means first
      obtain ⟨later, rest, same⟩ := ih means
      exact ⟨later, rest, fun behind => (firstLexeme?_of_separator (first behind)).trans
        (same behind)⟩
    | some found =>
      rw [meaning] at means first
      cases means
      exact ⟨pieces, rfl, fun behind => firstLexeme?_of_lexeme (first behind)⟩

/-- Before the first lexeme of a text, there are separators only. -/
theorem exists_pieces_of_firstLexeme? {text behind : List Char} {lexeme : Lexeme}
    (found : firstLexeme? text = some (lexeme, behind)) :
    ∃ pieces, text = written pieces ++ behind ∧ meant pieces = [lexeme] := by
  induction text with
  | nil => cases found
  | cons first rest ih =>
    by_cases separates : isSeparator first = true
    · rw [firstLexeme?_cons_of_isSeparator separates] at found
      obtain ⟨pieces, rfl, means⟩ := ih found
      refine ⟨.separator first (isSeparator_iff.mp separates) :: pieces, rfl, ?_⟩
      rw [meant_cons]
      exact means
    · rw [firstLexeme?, List.dropWhile_cons_of_neg separates] at found
      obtain ⟨piece, means, same⟩ := exists_piece_of_lexeme? found
      exact ⟨[piece], by simpa using same, by rw [meant_cons, means]; rfl⟩

theorem startsDefinition_eq_true_iff {line : List Char} : startsDefinition line = true ↔
    ∃ name rest behind, firstLexeme? line = some (.reference name, rest) ∧
      firstLexeme? rest = some (.define, behind) := by
  unfold startsDefinition
  constructor
  · intro starts
    split at starts
    · rename_i name rest first
      split at starts
      · rename_i behind second
        exact ⟨name, rest, behind, first, second⟩
      · cases starts
    · cases starts
  · rintro ⟨name, rest, behind, first, second⟩
    simp only [first, second]

/-- Pieces that mean a name and `::=` first start a definition, whatever follows. -/
theorem startsDefinition_written_append {pieces : List Piece} {name : String}
    {others : List Lexeme} (means : meant pieces = .reference name :: .define :: others)
    (behind : List Char) : startsDefinition (written pieces ++ behind) = true := by
  obtain ⟨later, rest, first⟩ := firstLexeme?_written_append means
  obtain ⟨last, -, second⟩ := firstLexeme?_written_append rest
  exact startsDefinition_eq_true_iff.mpr ⟨name, _, _, first behind, second behind⟩

/-- A line starts a definition if it starts with pieces that mean a name and `::=`. -/
theorem startsDefinition_iff_pieces {line : List Char} : startsDefinition line = true ↔
    ∃ pieces name behind, line = written pieces ++ behind ∧
      meant pieces = [.reference name, .define] := by
  constructor
  · intro starts
    obtain ⟨name, rest, behind, first, second⟩ := startsDefinition_eq_true_iff.mp starts
    obtain ⟨before, rfl, reference⟩ := exists_pieces_of_firstLexeme? first
    obtain ⟨between, rfl, define⟩ := exists_pieces_of_firstLexeme? second
    refine ⟨before ++ between, name, behind, ?_, ?_⟩
    · rw [written_append, List.append_assoc]
    · rw [meant_append, reference, define]
      rfl
  · rintro ⟨pieces, name, behind, rfl, means⟩
    exact startsDefinition_written_append means behind

/-! ### The language -/

/-- A text has lexemes if it is made of pieces, which it is in one way only; it then has the lexemes
that the pieces mean, so that what is written with any separators is read back. Reading other texts
fails behind the pieces before the first place where none starts. Whether a line starts a definition
depends on its first two lexemes only. -/
theorem tokenize_iff_pieces :
    (∀ text found, tokenize text = .ok found ↔
      ∃ pieces, text.toList = written pieces ∧ meant pieces = found) ∧
    Function.Injective written ∧
    (∀ pieces, tokenize (String.ofList (written pieces)) = .ok (meant pieces)) ∧
    (∀ text offset, tokenize text = .error offset ↔
      ∃ pieces unread, text.toList = written pieces ++ unread ∧ unread ≠ [] ∧
        (∀ piece : Piece, ¬piece.text <+: unread) ∧ offset = Text.byteLength (written pieces)) ∧
    ∀ line, startsDefinition line = true ↔ ∃ pieces name behind, line = written pieces ++ behind ∧
      meant pieces = [.reference name, .define] := by
  refine ⟨fun text found => ?_, written_injective, fun pieces => ?_, fun text offset => ?_,
    fun line => startsDefinition_iff_pieces⟩
  · rw [tokenize_eq_ok_iff, lexemes_eq_ok_iff]
  · rw [tokenize_eq_ok_iff, String.toList_ofList]
    exact lexemes_written pieces
  · rw [tokenize_eq_error_iff]
    constructor
    · rintro ⟨unread, failed, rfl⟩
      obtain ⟨pieces, parts, more, stuck⟩ := lexemes_eq_error_iff.mp failed
      refine ⟨pieces, unread, parts, more, piece?_eq_none_iff.mp stuck, ?_⟩
      rw [parts, Text.byteLength_append]
      omega
    · rintro ⟨pieces, unread, parts, more, stuck, rfl⟩
      refine ⟨unread, lexemes_eq_error_iff.mpr ⟨pieces, parts, more, piece?_eq_none_iff.mpr stuck⟩,
        ?_⟩
      rw [parts, Text.byteLength_append]
      omega

-- No separator is needed, and what ends a lexeme means nothing inside of others.
example : tokenize "<A>::='>'\"'\"|" =
    .ok [.reference "A", .define, .literal ">", .literal "'", .pipe] := by
  cbv

-- Reading fails where the quote that is not closed stands.
example : tokenize "<é>\x0c ::='>" = .error 9 := by
  cbv

end ShiftReduce.Bnf
