import SuiteAudit.Proofs.Yaml.PlainWord
/-!
# YAML — the tokens of a list of words

A list has a line for each of its words, with a hyphen and a space in front of the word. The
scanner reads a line in two steps, one for the hyphen and one for the word, and is then at the
start of the next line as it was at the start of this one (`Scanner.between`). So a line adds
two tokens to those before it, and a whole text the tokens of all of its lines.
-/

namespace SuiteAudit.Yaml

open Text

variable {word rest : List Char} {words : List (List Char)} {mark : Mark} {cursor : Cursor}
variable {tokens : Array Token} {indents : List Nat}

/-! ## Lists of words -/

/-- The line of a word in a list. -/
def entryLine (word : List Char) : List Char :=
  '-' :: ' ' :: (word ++ ['\n'])

/-- A list of words as it is written. -/
def listText (words : List (List Char)) : List Char :=
  words.flatMap entryLine

/-- A list begins with a hyphen, unless it has no words. -/
theorem stopsAt_listText {p : Char → Bool} (hp : p '-' = false) : StopsAt p (listText words) := by
  cases words with
  | nil => exact stopsAt_nil
  | cons word words => exact stopsAt_cons.2 hp

/-- The place behind the line of a word. -/
def Mark.behindEntry (mark : Mark) (word : List Char) : Mark :=
  (mark.advance ('-' :: ' ' :: word)).nextLine ['\n']

/-- The tokens of a list from an entry on, with those that end it. -/
def entryTokens (mark : Mark) : List (List Char) → List Token
  | [] => [⟨.blockEnd, mark⟩, ⟨.streamEnd, mark⟩]
  | word :: words =>
    ⟨.blockEntry, mark⟩ :: ⟨.scalar word true, mark.advance ['-', ' ']⟩ ::
      entryTokens (mark.behindEntry word) words

/-- The tokens of a list. -/
def listTokens (words : List (List Char)) : List Token :=
  ⟨.blockSequenceStart, .start⟩ :: entryTokens .start words

/-! ## Between two tokens -/

namespace Scanner

/-- The scanner between two tokens of a list: a key may begin, and none has. -/
def between (cursor : Cursor) (tokens : Array Token) (indents : List Nat) : Scanner :=
  ⟨cursor, tokens, indents, none, [], true, false⟩

/-- Spaces are passed over in front of a token. -/
theorem skipToToken_blanks {blanks : List Char} {keyAllowed : Bool}
    (hmarked : Cursor.sees ⟨blanks ++ rest, mark⟩ byteOrderMark = false)
    (hblanks : ∀ c ∈ blanks, c = ' ') (hspacing : StopsAt isSpacing rest)
    (hbreak : StopsAt isBreak rest) (hcomment : StopsAt (· == '#') rest) :
    skipToToken false keyAllowed ⟨blanks ++ rest, mark⟩ =
      (keyAllowed, ⟨rest, mark.advance blanks⟩) := by
  let p : Char → Bool := fun c => c == ' ' || ((false || !keyAllowed) && c == '\t')
  have hrun : ∀ c ∈ blanks, p c = true := fun c hc => by simp [p, hblanks c hc]
  have hstop : StopsAt p rest := hspacing.mono fun c hc => by
    simp only [p, isSpacing, Bool.or_eq_true, Bool.and_eq_true] at hc ⊢
    exact hc.imp_right And.right
  have hspaced : Cursor.skipWhile p ⟨blanks ++ rest, mark⟩ = ⟨rest, mark.advance blanks⟩ := by
    rw [Cursor.skipWhile, takeWhile_run hrun hstop, dropWhile_run hrun hstop]
  have hsees : Cursor.sees ⟨rest, mark.advance blanks⟩ '#' = false := by
    cases rest with
    | nil => rfl
    | cons c rest => simpa [Cursor.sees] using stopsAt_cons.1 hcomment
  have hnone : Cursor.readBreak? ⟨rest, mark.advance blanks⟩ = none :=
    Cursor.readBreak?_of_stopsAt hbreak
  rw [skipToToken]
  split
  · rename_i hb
    simp only [hmarked, Bool.and_false, Bool.false_eq_true, if_false] at hb
    rw [hspaced, hsees, if_neg Bool.false_ne_true, hnone] at hb
    cases hb
  · simp only [hmarked, Bool.and_false, Bool.false_eq_true, if_false]
    rw [hspaced, hsees, if_neg Bool.false_ne_true]

/-- A block that begins no further to the right stays open. -/
theorem closeBlocks_between {column : Nat} (h : ∀ indent ∈ indents.head?, indent ≤ column) :
    (between cursor tokens indents).closeBlocks (some column) = between cursor tokens indents := by
  have hclosed : indents.takeWhile (fun indent => (some column).all (· < indent)) = [] := by
    cases indents with
    | nil => rfl
    | cons indent indents => simpa using h indent rfl
  rw [closeBlocks, if_neg (by simp [between, inFlow])]
  simp only [between, hclosed]
  simp

/-- The token at the cursor, or the end. -/
def readNext (s : Scanner) : Except Fault Scanner :=
  match s.cursor.rest with
  | [] => s.readEnd
  | c :: after => s.readToken c after

/-- **One step passes over spaces and reads what stands behind them.** -/
theorem step_between {blanks : List Char}
    (hmarked : Cursor.sees ⟨blanks ++ rest, mark⟩ byteOrderMark = false)
    (hblanks : ∀ c ∈ blanks, c = ' ') (hspacing : StopsAt isSpacing rest)
    (hbreak : StopsAt isBreak rest) (hcomment : StopsAt (· == '#') rest)
    (hindents : ∀ indent ∈ indents.head?, indent ≤ (mark.advance blanks).column) :
    (between ⟨blanks ++ rest, mark⟩ tokens indents).step =
      (between ⟨rest, mark.advance blanks⟩ tokens indents).readNext.bind dropStaleKeys := by
  have hskip : skipToToken (between ⟨blanks ++ rest, mark⟩ tokens indents).inFlow
      (between ⟨blanks ++ rest, mark⟩ tokens indents).keyAllowed
      (between ⟨blanks ++ rest, mark⟩ tokens indents).cursor =
        (true, ⟨rest, mark.advance blanks⟩) :=
    skipToToken_blanks hmarked hblanks hspacing hbreak hcomment
  have hstale : (between ⟨rest, mark.advance blanks⟩ tokens indents).dropStaleKeys =
      .ok (between ⟨rest, mark.advance blanks⟩ tokens indents) := rfl
  have hclose : (between ⟨rest, mark.advance blanks⟩ tokens indents).closeBlocks
      (some (mark.advance blanks).column) = between ⟨rest, mark.advance blanks⟩ tokens indents :=
    closeBlocks_between hindents
  rw [step, hskip]
  simp only [between] at hstale hclose ⊢
  simp only [hstale, bind, Except.bind, hclose]
  cases rest <;> rfl

/-! ## The tokens of a line -/

/-- A hyphen in front of a space begins an entry. -/
theorem readToken_hyphen {s : Scanner} (hrest : s.cursor.rest = '-' :: ' ' :: rest) :
    s.readToken '-' (' ' :: rest) = s.readBlockEntry := by
  have hmarker (c : Char) : s.cursor.seesMarker c = false := by
    have hlead : lead? [c, c, c] ('-' :: ' ' :: rest) = none := by
      by_cases hc : c = '-' <;> simp [lead?, hc]
    rw [Cursor.seesMarker, hrest, hlead, Bool.and_false]
  simp [readToken, hmarker, endsWord, isSpacing]

/-- The first entry opens the list, -/
theorem openBlock_first :
    (between cursor tokens []).openBlock mark.column tokens.size .blockSequenceStart mark =
      between cursor (tokens.push ⟨.blockSequenceStart, mark⟩) [mark.column] := by
  rw [openBlock, if_pos (by simp [between, inFlow, inside])]
  simp [insertAt, between]

/-- and the others leave it open. -/
theorem openBlock_next :
    (between cursor tokens [mark.column]).openBlock mark.column tokens.size .blockSequenceStart
      mark = between cursor tokens [mark.column] := by
  have houtside : decide ((between cursor tokens [mark.column]).inside ≤ mark.column) = false :=
    decide_eq_false (Nat.not_succ_le_self mark.column)
  rw [openBlock, houtside, Bool.and_false, if_neg Bool.false_ne_true]

/-- The hyphen of an entry. -/
theorem readBlockEntry_between {opened : Array Token} {columns : List Nat}
    (hopen : (between ⟨'-' :: rest, mark⟩ tokens indents).openBlock mark.column tokens.size
      .blockSequenceStart mark = between ⟨'-' :: rest, mark⟩ opened columns) :
    (between ⟨'-' :: rest, mark⟩ tokens indents).readBlockEntry =
      .ok (between ⟨rest, mark.advance ['-']⟩ (opened.push ⟨.blockEntry, mark⟩) columns) := by
  have hmark : (between ⟨'-' :: rest, mark⟩ tokens indents).cursor.mark = mark := rfl
  have htokens : (between ⟨'-' :: rest, mark⟩ tokens indents).tokens = tokens := rfl
  rw [readBlockEntry, hmark, htokens, hopen]
  rfl

/-- A word that needs no quotes is a plain scalar. -/
theorem readToken_word {s : Scanner} {c : Char} {after : List Char} (hlead : isIndicator c = false)
    (hplain : isPlainChar c = true) (hcolumn : s.cursor.mark.column ≠ 0) :
    s.readToken c after = s.readPlainScalar := by
  have hmarker (c : Char) : s.cursor.seesMarker c = false := by
    simp [Cursor.seesMarker, hcolumn]
  have hstarts : startsPlain s.inFlow c after = true := by
    simp [startsPlain, hlead, (isPlainChar_iff.1 hplain).1]
  revert hlead
  simp +contextual [isIndicator, readToken, hmarker, hstarts]

/-- **A word and the end of its line.** A key may have begun with the word, and the line break
shows that none did. -/
theorem readPlainScalar_word {column : Nat} (hword : ∀ c ∈ word, isPlainChar c = true)
    (hcolumn : column ≠ mark.column) (hspacing : StopsAt isSpacing rest)
    (hbreak : StopsAt isBreak rest) :
    (between ⟨word ++ '\n' :: rest, mark⟩ tokens [column]).readPlainScalar.bind dropStaleKeys =
      .ok (between ⟨rest, (mark.advance word).nextLine ['\n']⟩
        (tokens.push ⟨.scalar word true, mark⟩) [column]) := by
  -- the word is not at the column of the list, so a key may begin with it and none has to
  have hnote : (between ⟨word ++ '\n' :: rest, mark⟩ tokens [column]).noteKey =
      .ok { between ⟨word ++ '\n' :: rest, mark⟩ tokens [column] with
        key := some ⟨false, tokens.size, mark⟩ } := by
    simp [noteKey, between, dropKey, hcolumn, bind, Except.bind, pure, Except.pure, inFlow]
  have hread : readPlain false (column + 1) mark [] none ⟨word ++ '\n' :: rest, mark⟩ =
      .ok (word, true, ⟨rest, (mark.advance word).nextLine ['\n']⟩) := by
    rw [readPlain_run hword, readPlain_feed (Nat.succ_pos column) hspacing hbreak]
    simp
  -- behind the line break, the key would be on an earlier line
  have hstale : dropStaleKeys { between ⟨rest, (mark.advance word).nextLine ['\n']⟩
      (tokens.push ⟨.scalar word true, mark⟩) [column] with
        key := some ⟨false, tokens.size, mark⟩ } =
      .ok (between ⟨rest, (mark.advance word).nextLine ['\n']⟩
        (tokens.push ⟨.scalar word true, mark⟩) [column]) := by
    simp [dropStaleKeys, between, freshKey, PossibleKey.isStale, Mark.nextLine, Mark.advance]
  rw [readPlainScalar, hnote]
  simp only [between, bind, Except.bind, inFlow, inside, List.isEmpty_nil, Bool.not_true, hread]
  exact hstale

/-! ## Steps -/

/-- **The step over a hyphen.** -/
theorem step_hyphen {opened : Array Token} {columns : List Nat}
    (hopen : (between ⟨'-' :: ' ' :: rest, mark⟩ tokens indents).openBlock mark.column tokens.size
      .blockSequenceStart mark = between ⟨'-' :: ' ' :: rest, mark⟩ opened columns)
    (hindents : ∀ indent ∈ indents.head?, indent ≤ mark.column) :
    (between ⟨'-' :: ' ' :: rest, mark⟩ tokens indents).step =
      .ok (between ⟨' ' :: rest, mark.advance ['-']⟩ (opened.push ⟨.blockEntry, mark⟩)
        columns) := by
  have hmarked : Cursor.sees ⟨[] ++ '-' :: ' ' :: rest, mark⟩ byteOrderMark = false := rfl
  have hstep : (between ⟨[] ++ '-' :: ' ' :: rest, mark⟩ tokens indents).step = _ :=
    step_between hmarked (by simp) (stopsAt_cons.2 (by decide)) (stopsAt_cons.2 (by decide))
      (stopsAt_cons.2 (by decide)) hindents
  have hread : (between ⟨'-' :: ' ' :: rest, mark⟩ tokens indents).readNext =
      .ok (between ⟨' ' :: rest, mark.advance ['-']⟩ (opened.push ⟨.blockEntry, mark⟩)
        columns) :=
    (readToken_hyphen rfl).trans (readBlockEntry_between hopen)
  rw [List.nil_append, Mark.advance_nil, hread] at hstep
  exact hstep

/-- **The step over a word and the end of its line.** -/
theorem step_word {column : Nat} (hword : IsPlainWord word) (hcolumn : column ≤ mark.column)
    (hspacing : StopsAt isSpacing rest) (hbreak : StopsAt isBreak rest) :
    (between ⟨' ' :: (word ++ '\n' :: rest), mark⟩ tokens [column]).step =
      .ok (between ⟨rest, (mark.advance (' ' :: word)).nextLine ['\n']⟩
        (tokens.push ⟨.scalar word true, mark.advance [' ']⟩) [column]) := by
  obtain ⟨c, cs, rfl⟩ := List.exists_cons_of_ne_nil hword.ne_nil
  have hplain := hword.chars c (by simp)
  have hlead := stopsAt_cons.1 hword.lead
  obtain ⟨hc, hbroken, -⟩ := isPlainChar_iff.1 hplain
  have hcomment : (c == '#') = false := by
    rw [beq_eq_false_iff_ne]
    rintro rfl
    simp [isIndicator] at hlead
  have hmarked : Cursor.sees ⟨[' '] ++ (c :: cs ++ '\n' :: rest), mark⟩ byteOrderMark = false :=
    rfl
  have hindents : ∀ indent ∈ [column].head?, indent ≤ (mark.advance [' ']).column := by
    rintro indent hindent
    obtain rfl := Option.some.inj hindent
    exact Nat.le_succ_of_le hcolumn
  have hstep : (between ⟨[' '] ++ (c :: cs ++ '\n' :: rest), mark⟩ tokens [column]).step = _ :=
    step_between hmarked (by simp) (stopsAt_cons.2 hc) (stopsAt_cons.2 hbroken)
      (stopsAt_cons.2 hcomment) hindents
  have hread : (between ⟨c :: cs ++ '\n' :: rest, mark.advance [' ']⟩ tokens [column]).readNext =
      (between ⟨c :: cs ++ '\n' :: rest, mark.advance [' ']⟩ tokens [column]).readPlainScalar :=
    readToken_word hlead hplain (Nat.succ_ne_zero mark.column)
  rw [hread, readPlainScalar_word hword.chars (Nat.ne_of_lt (Nat.lt_succ_of_le hcolumn)) hspacing
    hbreak, Mark.advance_advance] at hstep
  exact hstep

/-- **The step at the end.** -/
theorem step_end (hcolumn : mark.column = 0) :
    (between ⟨[], mark⟩ tokens [0]).step =
      .ok ⟨⟨[], mark⟩, (tokens.push ⟨.blockEnd, mark⟩).push ⟨.streamEnd, mark⟩, [], none, [],
        false, true⟩ := by
  have hmarked : Cursor.sees ⟨[] ++ [], mark⟩ byteOrderMark = false := rfl
  have hstep : (between ⟨[] ++ [], mark⟩ tokens [0]).step = _ :=
    step_between hmarked (by simp) stopsAt_nil stopsAt_nil stopsAt_nil (by simp)
  rw [List.nil_append, Mark.advance_nil] at hstep
  have hread : (between ⟨[], mark⟩ tokens [0]).readNext =
      .ok ⟨⟨[], mark⟩, (tokens.push ⟨.blockEnd, mark⟩).push ⟨.streamEnd, mark⟩, [], none, [],
        false, true⟩ := by
    simp [readNext, between, readEnd, hcolumn, closeBlocks, inFlow, dropKey, take, emit,
      Cursor.advance, bind, Except.bind, pure, Except.pure]
  rw [hstep, hread]
  rfl

/-! ## Runs -/

theorem run_succ {s next : Scanner} {fuel : Nat} (hstep : s.step = .ok next)
    (hgoing : next.finished = false) : run (fuel + 1) s = run fuel next := by
  rw [run, hstep]
  simp [hgoing]

/-- **Two steps over a line.** -/
theorem run_line {opened : Array Token} {fuel : Nat} (hword : IsPlainWord word)
    (hopen : (between ⟨listText (word :: words), mark⟩ tokens indents).openBlock mark.column
      tokens.size .blockSequenceStart mark =
        between ⟨listText (word :: words), mark⟩ opened [mark.column])
    (hindents : ∀ indent ∈ indents.head?, indent ≤ mark.column) :
    run (fuel + 2) (between ⟨listText (word :: words), mark⟩ tokens indents) =
      run fuel (between ⟨listText words, mark.behindEntry word⟩
        ((opened.push ⟨.blockEntry, mark⟩).push ⟨.scalar word true, mark.advance ['-', ' ']⟩)
        [mark.column]) := by
  have hline : listText (word :: words) = '-' :: ' ' :: (word ++ '\n' :: listText words) := by
    simp [listText, entryLine]
  rw [hline] at hopen ⊢
  have hend : (between ⟨' ' :: (word ++ '\n' :: listText words), mark.advance ['-']⟩
      (opened.push ⟨.blockEntry, mark⟩) [mark.column]).step = _ :=
    step_word hword (Nat.le_succ mark.column) (stopsAt_listText rfl) (stopsAt_listText rfl)
  rw [run_succ (step_hyphen hopen hindents) rfl, run_succ hend rfl, Mark.advance_advance,
    Mark.advance_advance]
  rfl

/-- **A run over a list that is open** adds the tokens of its lines. -/
theorem run_list {fuel : Nat} (hwords : ∀ word ∈ words, IsPlainWord word)
    (hcolumn : mark.column = 0) (hfuel : 2 * words.length < fuel) :
    run fuel (between ⟨listText words, mark⟩ tokens [0]) =
      (tokens.toList ++ entryTokens mark words, none) := by
  induction words generalizing mark tokens fuel with
  | nil =>
    obtain ⟨fuel, rfl⟩ := Nat.exists_eq_succ_of_ne_zero (Nat.ne_of_gt hfuel)
    rw [listText, List.flatMap_nil, run, step_end hcolumn]
    simp [entryTokens]
  | cons word words ih =>
    rw [List.length_cons] at hfuel
    obtain ⟨fuel, rfl⟩ := Nat.exists_eq_add_of_le' (by omega : 2 ≤ fuel)
    have hcolumns : [0] = [mark.column] := by rw [hcolumn]
    have hmark : (mark.behindEntry word).column = 0 := rfl
    rw [hcolumns, run_line (hwords word (by simp)) openBlock_next (by simp), ← hcolumns,
      ih (fun other hother => hwords other (by simp [hother])) hmark (by omega)]
    simp [entryTokens]

/-- Every line of a list has at least two characters. -/
theorem two_mul_length_le (words : List (List Char)) :
    2 * words.length ≤ (listText words).length := by
  induction words with
  | nil => rfl
  | cons word words ih =>
    simp only [listText, List.flatMap_cons, List.length_append, entryLine, List.length_cons] at ih ⊢
    omega

end Scanner

/-- **The tokens of a list of words.** -/
theorem scan_listText (hwords : ∀ other ∈ word :: words, IsPlainWord other) :
    scan (listText (word :: words)) = (listTokens (word :: words), none) := by
  have hlength := Scanner.two_mul_length_le (word :: words)
  rw [List.length_cons] at hlength
  obtain ⟨fuel, hfuel⟩ := Nat.exists_eq_add_of_le'
    (by omega : 2 ≤ (listText (word :: words)).length + 1)
  have hstart : Scanner.ofText (listText (word :: words)) =
      .between ⟨listText (word :: words), .start⟩ #[] [] := rfl
  have hcolumns : [Mark.start.column] = [0] := rfl
  rw [scan, hfuel, hstart, Scanner.run_line (hwords word (by simp)) Scanner.openBlock_first
    (by simp), hcolumns, Scanner.run_list (fun other hother => hwords other (by simp [hother])) rfl
    (by omega)]
  simp [listTokens, entryTokens]

end SuiteAudit.Yaml
