import ShiftReduce.Proofs.Lexer.LineBreaks
import ShiftReduce.Proofs.Parser.Completion
import ShiftReduce.Proofs.Parser.Reproduction

/-!
# Lines and columns of failures

A run counts lines from the tokens of line breaks that it has read, and columns from the byte where
the last of them stops. The text in front of the token says the same: tokens of line breaks are
never cut between a carriage return and a line feed, and no other breaks stand in between.

## Main definitions

* `Text.Unsplit` — two texts that no line break is cut between
* `Text.InLine` — the number of the last line of a text, and the byte where it starts
* `Text.Locates` — the line and the column of the place behind a text

## Main results

* `countBreaks_append` — line breaks of two texts add up
* `Lexer.Reachable.inLine_scan` — what is counted from tokens holds of the text before the next one
* `Language.locates_of_yields` — the line and the column of a failure are those of its token
-/

namespace ShiftReduce

/-! ### Counting line breaks -/

namespace Text

/-- Not both a line break ends the first text and one starts the second, so that none is cut. -/
def Unsplit (front back : List Char) : Prop :=
  ∀ last ∈ front.getLast?, isBreak last = true → ∀ first ∈ back.head?, isBreak first = false

theorem Unsplit.nil (back : List Char) : Unsplit [] back := nofun

theorem Unsplit.tail {char : Char} {rest back : List Char}
    (unsplit : Unsplit (char :: rest) back) : Unsplit rest back := by
  cases rest with
  | nil => exact .nil back
  | cons first rest =>
    intro last isLast
    exact unsplit last (by rwa [List.getLast?_cons_cons])

/-- A character that makes up no pair with the one behind it does not with one of the next text. -/
theorem Unsplit.single {char : Char} {rest back : List Char}
    (unsplit : Unsplit (char :: rest) back)
    (single : ∀ more, char = '\r' → rest = '\n' :: more → False) (more : List Char)
    (isReturn : char = '\r') (feed : rest ++ back = '\n' :: more) : False := by
  cases rest with
  | nil =>
    subst isReturn
    rw [List.nil_append] at feed
    subst feed
    cases unsplit '\r' rfl rfl '\n' rfl
  | cons first rest =>
    obtain ⟨rfl, -⟩ := List.cons.inj feed
    exact single rest isReturn rfl

/-- What no line break ends is cut from nothing. -/
theorem Unsplit.of_unbroken {text : List Char} (nonempty : text ≠ [])
    (unbroken : ∀ char ∈ text, isBreak char = false) (front back : List Char) :
    Unsplit (front ++ text) back := by
  intro last isLast broken
  rw [List.getLast?_append_of_ne_nil _ nonempty] at isLast
  rw [unbroken last (List.mem_of_getLast? isLast)] at broken
  cases broken

/-- Text without line breaks may go to the front. -/
theorem Unsplit.move {front text back : List Char} (unsplit : Unsplit front (text ++ back))
    (unbroken : ∀ char ∈ text, isBreak char = false) : Unsplit (front ++ text) back := by
  cases text with
  | nil => rwa [List.append_nil]
  | cons first rest => exact .of_unbroken (List.cons_ne_nil _ _) unbroken front back

end Text

/-- Line breaks of two texts add up, unless one is cut between them. -/
theorem countBreaks_append {front back : List Char} (unsplit : Text.Unsplit front back) :
    countBreaks (front ++ back) = countBreaks front + countBreaks back := by
  fun_induction countBreaks front with
  | case1 => simp
  | case2 rest ih =>
    rw [List.cons_append, List.cons_append, countBreaks, ih unsplit.tail.tail, Nat.add_right_comm]
  | case3 char rest single isBreak ih =>
    rw [List.cons_append, countBreaks.eq_3 _ _ (unsplit.single single), if_pos isBreak,
      ih unsplit.tail, Nat.add_right_comm]
  | case4 char rest single unbroken ih =>
    rw [List.cons_append, countBreaks.eq_3 _ _ (unsplit.single single), if_neg unbroken,
      ih unsplit.tail]

theorem countBreaks_eq_zero {text : List Char}
    (unbroken : ∀ char ∈ text, Text.isBreak char = false) : countBreaks text = 0 := by
  fun_induction countBreaks text with
  | case1 => rfl
  | case2 => cases unbroken '\r' List.mem_cons_self
  | case3 char _ _ isBreak => cases isBreak.symm.trans (unbroken char List.mem_cons_self)
  | case4 _ _ _ _ ih => exact ih fun char present => unbroken char (List.mem_cons_of_mem _ present)

theorem countBreaks_pos {text : List Char} (nonempty : text ≠ [])
    (broken : ∀ char ∈ text, Text.isBreak char = true) : 0 < countBreaks text := by
  fun_cases countBreaks text with
  | case1 => exact absurd rfl nonempty
  | case2 => exact Nat.succ_pos _
  | case3 => exact Nat.succ_pos _
  | case4 char _ _ unbroken => exact absurd (broken char List.mem_cons_self) unbroken

/-- A character that makes up no pair with the one behind it adds no pair. -/
theorem count_pairs_cons {char : Char} {rest : List Char}
    (single : ∀ more, char = '\r' → rest = '\n' :: more → False) :
    ((char :: rest).zip rest).count ('\r', '\n') = (rest.zip rest.tail).count ('\r', '\n') := by
  cases rest with
  | nil => rfl
  | cons first rest =>
    rw [List.zip_cons_cons, List.count_cons_of_ne]
    · rfl
    · intro same
      obtain ⟨isReturn, feed⟩ := Prod.mk.inj same
      exact single rest isReturn (by rw [feed])

theorem count_breaks_cons (char : Char) (rest : List Char) :
    (char :: rest).count '\r' + (char :: rest).count '\n' =
      rest.count '\r' + rest.count '\n' + if Text.isBreak char then 1 else 0 := by
  rw [List.count_cons, List.count_cons, Text.isBreak]
  by_cases isReturn : char = '\r'
  · simp [isReturn, Nat.add_right_comm]
  · by_cases feed : char = '\n'
    · simp [feed, Nat.add_assoc]
    · simp [isReturn, feed]

/-- Every carriage return and every line feed is a line break, but pairs of them are one. -/
theorem countBreaks_add_count (text : List Char) :
    countBreaks text + (text.zip text.tail).count ('\r', '\n') =
      text.count '\r' + text.count '\n' := by
  fun_induction countBreaks text with
  | case1 => rfl
  | case2 rest ih =>
    have pairs : (('\n' :: rest).zip rest).count ('\r', '\n') =
        (rest.zip rest.tail).count ('\r', '\n') := count_pairs_cons fun _ same => nomatch same
    rw [List.tail_cons, List.zip_cons_cons, List.count_cons_self, pairs, count_breaks_cons,
      count_breaks_cons, ← ih]
    exact Nat.add_add_add_comm ..
  | case3 char rest single broken ih =>
    have isBreak : Text.isBreak char = true := broken
    rw [List.tail_cons, count_pairs_cons single, count_breaks_cons, if_pos isBreak, ← ih,
      Nat.add_right_comm]
  | case4 char rest single unbroken ih =>
    have isBreak : ¬ Text.isBreak char = true := unbroken
    rw [List.tail_cons, count_pairs_cons single, count_breaks_cons, if_neg isBreak, ih,
      Nat.add_zero]

/-! ### The last line of a text -/

/-- The last line of a text has a number, counted from one, and starts at a byte: behind the last
line break, if there is one. -/
structure Text.InLine (text : List Char) (line start : Nat) : Prop where
  line_eq : line = countBreaks text + 1
  exists_split : ∃ earlier current, text = earlier ++ current ∧ start = byteLength earlier ∧
    (∀ last ∈ earlier.getLast?, isBreak last = true) ∧ ∀ char ∈ current, isBreak char = false

namespace Text.InLine

variable {front text : List Char} {line start : Nat}

theorem nil : InLine [] 1 0 where
  line_eq := rfl
  exists_split := ⟨[], [], rfl, rfl, nofun, nofun⟩

/-- Text without line breaks stands in the same line. -/
theorem append_unbroken (inLine : InLine front line start)
    (unbroken : ∀ char ∈ text, isBreak char = false) : InLine (front ++ text) line start where
  line_eq := by
    have unsplit : Unsplit front text := fun _ _ _ first isFirst =>
      unbroken first (List.mem_of_mem_head? isFirst)
    rw [countBreaks_append unsplit, countBreaks_eq_zero unbroken, inLine.line_eq, Nat.add_zero]
  exists_split := by
    obtain ⟨earlier, current, rfl, place, ended, clear⟩ := inLine.exists_split
    refine ⟨earlier, current ++ text, List.append_assoc .., place, ended, ?_⟩
    exact List.forall_mem_append.mpr ⟨clear, unbroken⟩

/-- Behind line breaks, a new line starts. -/
theorem append_broken (inLine : InLine front line start) (unsplit : Unsplit front text)
    (nonempty : text ≠ []) (broken : ∀ char ∈ text, isBreak char = true) :
    InLine (front ++ text) (line + max 1 (countBreaks text)) (byteLength (front ++ text)) where
  line_eq := by
    have positive := countBreaks_pos nonempty broken
    rw [countBreaks_append unsplit, inLine.line_eq, Nat.max_eq_right positive]
    omega
  exists_split := by
    refine ⟨front ++ text, [], (List.append_nil _).symm, rfl, fun last isLast => ?_, nofun⟩
    rw [List.getLast?_append_of_ne_nil _ nonempty] at isLast
    exact broken last (List.mem_of_getLast? isLast)

end Text.InLine

/-- What is counted behind a token holds of the text up to there: a token of line breaks has all
that stand together, and another token has none. -/
theorem Text.InLine.token {front value tail : List Char} {line start : Nat}
    (inLine : InLine front line start) (unsplit : Unsplit front (value ++ tail))
    (nonempty : value ≠ []) (token : Token) (text : token.value.toList = value)
    (stop : token.stop = byteLength (front ++ value))
    (breaks : token.kind = lineBreakClass → value = (value ++ tail).takeWhile isBreak)
    (others : token.kind ≠ lineBreakClass → ∀ char ∈ value, isBreak char = false) :
    ∃ next place, (∀ rest, lineAfter line start (token :: rest) = lineAfter next place rest) ∧
      InLine (front ++ value) next place ∧ Unsplit (front ++ value) tail := by
  by_cases kind : token.kind = lineBreakClass
  · have whole := breaks kind
    have broken : ∀ char ∈ value, isBreak char = true := by
      rw [whole]
      exact fun char present => List.mem_takeWhile_imp present
    have left : tail = (value ++ tail).dropWhile isBreak := by
      have parts := List.takeWhile_append_dropWhile (p := isBreak) (l := value ++ tail)
      rw [← whole] at parts
      exact (List.append_cancel_left parts).symm
    have uncut : Unsplit front value := by
      obtain ⟨first, rest, rfl⟩ := List.exists_cons_of_ne_nil nonempty
      exact unsplit
    refine ⟨_, token.stop, fun rest => by rw [lineAfter, if_pos kind], ?_, ?_⟩
    · rw [text, stop]
      exact inLine.append_broken uncut nonempty broken
    · intro _ _ _ first isFirst
      have unbroken := List.head?_dropWhile_not isBreak (value ++ tail)
      rw [← left, Option.mem_def.mp isFirst] at unbroken
      simpa using unbroken
  · exact ⟨line, start, fun rest => by rw [lineAfter, if_neg kind],
      inLine.append_unbroken (others kind), .of_unbroken nonempty (others kind) front tail⟩

/-! ### Lines of tokens -/

namespace Lexer

/-- A scan that starts at a known line gives tokens in front of which lines are counted rightly. -/
theorem Reachable.inLine_scan {lexer : Lexer} (reachable : lexer.Reachable) (state : StateIndex)
    (offset : Nat) (text : List Char) {front : List Char} {line start : Nat}
    (place : Text.byteLength front = offset) (inLine : Text.InLine front line start)
    (unsplit : Text.Unsplit front text)
    (clear : ∀ token ∈ (lexer.scan state offset text).tokens, token.kind ≠ lineBreakClass →
      ∀ char ∈ token.value.toList, Text.isBreak char = false) {index : Nat} {token : Token}
    (found : (lexer.scan state offset text).tokens[index]? = some token) :
    ∃ middle back next begins, text = middle ++ (token.value.toList ++ back) ∧
      Text.byteLength (front ++ middle) = token.start ∧
      lineAfter line start ((lexer.scan state offset text).tokens.take index) = (next, begins) ∧
      Text.InLine (front ++ middle) next begins := by
  fun_induction scan lexer state offset text generalizing front line start index with
  | case1 => cases found
  | case2 => cases found
  | case3 =>
    rename_i offset first rest kind taken selected value tail stop result ih
    have parts : value ++ tail = first :: rest := List.take_append_drop _ _
    have nonempty : value ≠ [] := by
      simp [value, Nat.pos_iff_ne_zero.mp taken.length_pos]
    cases index with
    | zero =>
      obtain rfl := Option.some.inj found
      refine ⟨[], tail, line, start, ?_, ?_, rfl, ?_⟩
      · rw [String.toList_ofList, parts]
        rfl
      · rwa [List.append_nil]
      · rwa [List.append_nil]
    | succ index =>
      obtain ⟨clearFirst, clearRest⟩ := List.forall_mem_cons.mp clear
      have size : stop = Text.byteLength (front ++ value) := by
        rw [Text.byteLength_append, place]
      have breaks : kind = lineBreakClass → value = (value ++ tail).takeWhile Text.isBreak := by
        rintro rfl
        rw [parts]
        exact reachable.take_eq_of_select? selected
      have others : kind ≠ lineBreakClass → ∀ char ∈ value, Text.isBreak char = false := by
        have clearValue := clearFirst
        rwa [String.toList_ofList] at clearValue
      have unbroken : ∀ char ∈ lexer.gap tail, Text.isBreak char = false :=
        fun char present => isBreak_of_mem_gap present
      obtain ⟨next, begins, counted, behind, uncut⟩ := inLine.token (parts.symm ▸ unsplit) nonempty
        ⟨String.ofList value, kind, offset, stop⟩ String.toList_ofList size breaks others
      rw [← gap_append_afterGap lexer tail] at uncut
      obtain ⟨middle, back, line, start, split, bytes, counts, ends⟩ := ih
        (by rw [Text.byteLength_append, size]) (behind.append_unbroken unbroken)
        (uncut.move unbroken) clearRest found
      refine ⟨value ++ lexer.gap tail ++ middle, back, line, start, ?_, ?_, ?_, ?_⟩
      · rw [List.append_assoc, List.append_assoc, ← split, gap_append_afterGap, parts]
      · rw [← bytes]
        simp
      · rw [← counts]
        exact counted _
      · simpa using ends

/-- In front of every token of an input, lines are counted rightly from the tokens before. -/
theorem Reachable.inLine_tokenize {lexer : Lexer} (reachable : lexer.Reachable) {input : String}
    (clear : ∀ token ∈ (lexer.tokenize input).tokens, token.kind ≠ lineBreakClass →
      ∀ char ∈ token.value.toList, Text.isBreak char = false) {index : Nat} {token : Token}
    (found : (lexer.tokenize input).tokens[index]? = some token) :
    ∃ front back line start, input.toList = front ++ (token.value.toList ++ back) ∧
      Text.byteLength front = token.start ∧
      lineAfter 1 0 ((lexer.tokenize input).tokens.take index) = (line, start) ∧
      Text.InLine front line start := by
  have unbroken : ∀ char ∈ lexer.gap input.toList, Text.isBreak char = false :=
    fun char present => isBreak_of_mem_gap present
  obtain ⟨middle, back, line, start, split, bytes, counts, ends⟩ :=
    reachable.inLine_scan initialState _ _ rfl (Text.InLine.nil.append_unbroken unbroken)
      (Text.Unsplit.move (.nil _) unbroken) clear found
  refine ⟨lexer.gap input.toList ++ middle, back, line, start, ?_, bytes, counts, ends⟩
  rw [List.append_assoc, ← split, gap_append_afterGap]

end Lexer

/-! ### Places of failures -/

/-- The line and the column, in bytes, of the place behind a text, both counted from one. Carriage
returns and line feeds are line breaks, and pairs of them are one; the column is counted from the
last line break, if there is one. -/
structure Text.Locates (text : List Char) (line column : Nat) : Prop where
  line : line + (text.zip text.tail).count ('\r', '\n') = text.count '\r' + text.count '\n' + 1
  column : ∃ earlier current, text = earlier ++ current ∧
    (∀ last ∈ earlier.getLast?, isBreak last = true) ∧ (∀ char ∈ current, isBreak char = false) ∧
    column = byteLength current + 1

/-- The place behind a text is in its last line. -/
theorem Text.InLine.locates {text : List Char} {line start : Nat}
    (inLine : InLine text line start) : Locates text line (byteLength text - start + 1) where
  line := by
    have counts := countBreaks_add_count text
    rw [inLine.line_eq]
    omega
  column := by
    obtain ⟨earlier, current, rfl, rfl, ended, clear⟩ := inLine.exists_split
    refine ⟨earlier, current, rfl, ended, clear, ?_⟩
    rw [byteLength_append, Nat.add_sub_cancel_left]

namespace Language

variable {language : Language}

/-- A run fails at a token of its input, and the line and column are those of the text before. -/
theorem locates_of_yields {lexer : Lexer} (reachable : lexer.Reachable) {text : String}
    (built : ofText lexer text = .ok language) {input : String}
    (clear : ∀ token ∈ (lexer.tokenize input).tokens, token.kind ≠ lineBreakClass →
      ∀ char ∈ token.value.toList, Text.isBreak char = false) {token : Token} {line column : Nat}
    (yields : language.Yields input (.error (.unexpectedToken token line column))) :
    Text.byteLength (Text.takeBytes token.start input.toList) = token.start ∧
      token.value.toList <+: Text.dropBytes token.start input.toList ∧
      Text.Locates (Text.takeBytes token.start input.toList) line column := by
  have tabled := table_of_ofText built
  obtain ⟨rfl, loaded, -⟩ := ofText_eq_ok_iff.mp built
  obtain ⟨-, yields⟩ := yields.tokens nofun
  have wellFormed := Grammar.Loaded.wellFormed ⟨_, reachable, text, loaded⟩
  have sound := wellFormed.sound_table tabled
  obtain ⟨last, reached, failed⟩ := Engine.exists_runFor_iff.mp yields
  obtain ⟨frames, represents⟩ := wellFormed.represents_of_reaches sound reached
  rcases represents.error_cases wellFormed sound failed with
    ⟨atEnd, -⟩ | ⟨_, _, _, same, next, located⟩
  · cases atEnd
  obtain ⟨rfl, rfl, rfl⟩ := ParseError.unexpectedToken.inj same
  obtain ⟨front, back, line, start, split, bytes, counts, inLine⟩ :=
    reachable.inLine_tokenize clear next
  rw [represents.take_eq] at counts
  rw [location, counts] at located
  obtain ⟨rfl, rfl⟩ := Prod.mk.inj located
  rw [← bytes, split, Text.takeBytes_byteLength, Text.dropBytes_byteLength]
  exact ⟨rfl, List.prefix_append _ _, inLine.locates⟩

end Language

/-- Line breaks and a letter behind them. -/
def Grammar.breaksText : String := "<rows> ::= <Token-EOL> <rows> | \"a\""

/-- The grammar of line breaks. -/
def Grammar.sampleBreaks : Grammar where
  rules := [⟨startName, .start, [[.rule 1]]⟩,
    ⟨"rows", .declared, [[.rule 2, .rule 1], [.terminal 1]]⟩,
    ⟨"Token-EOL", .tokenClass lineBreakClass, []⟩, ⟨"Token-EOF", .tokenClass endClass, []⟩,
    ⟨"Token-letter", .tokenClass 2, []⟩]
  terminals := ["", "a"]
  classes := ["EOL", "EOF", "letter"]

/-- The table of the grammar of line breaks. -/
def Grammar.sampleBreaksTable : Table where
  rows := [
    ⟨[(.terminal 1, .shift 1), (.rule 2, .shift 3)], [(1, 2)]⟩,
    ⟨[(.rule 3, .reduce 1 1)], []⟩,
    ⟨[(.rule 3, .accept)], []⟩,
    ⟨[(.terminal 1, .shift 1), (.rule 2, .shift 3)], [(1, 4)]⟩,
    ⟨[(.rule 3, .reduce 1 0)], []⟩]
  resolved := []

/-- A letter fails behind three line breaks, one of them a pair, and a blank of two bytes. -/
theorem Language.locates_breaks : Text.Locates "\r\n \n\r\u00a0".toList 4 3 := by
  have loaded : Grammar.ofText Lexer.withLetters Grammar.breaksText = .ok Grammar.sampleBreaks :=
    eq_ok_of_toOption (by decide +kernel)
  have unopposed : Grammar.sampleBreaks.buildTables.conflict = none := by decide +kernel
  have tabled : Grammar.sampleBreaks.buildTables.table = Grammar.sampleBreaksTable := by
    decide +kernel
  have cut : Lexer.withLetters.tokenize "\r\n \n\r\u00a0b" =
      ⟨true, [⟨"\r\n", 0, 0, 2⟩, ⟨"\n\r", 0, 3, 5⟩, ⟨"b", 2, 7, 8⟩], "", initialState⟩ := by
    cbv
  have yields : Language.Yields
      ⟨Lexer.withLetters, Grammar.sampleBreaks, Grammar.sampleBreaks.buildTables⟩
      "\r\n \n\r\u00a0b" (.error (.unexpectedToken ⟨"b", 2, 7, 8⟩ 4 3)) := by
    rw [Yields, cut, if_pos rfl, Parser.engine, tabled]
    exact ⟨3, rfl⟩
  have clear : ∀ token ∈ (Lexer.withLetters.tokenize "\r\n \n\r\u00a0b").tokens,
      token.kind ≠ lineBreakClass → ∀ char ∈ token.value.toList, Text.isBreak char = false := by
    rw [cut]
    simp [lineBreakClass, Text.isBreak]
  have reachable : Lexer.withLetters.Reachable := .apply _ .initial
  have front : Text.takeBytes 7 "\r\n \n\r\u00a0b".toList = "\r\n \n\r\u00a0".toList := by
    decide +kernel
  exact front ▸ (locates_of_yields reachable
    (ofText_eq_ok_iff.mpr ⟨rfl, loaded, rfl, unopposed⟩) clear yields).2.2

end ShiftReduce
