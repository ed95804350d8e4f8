import Mathlib
import ScriptSteps.Proofs.Token.Appended

/-!
# Tokens tile their text

From its start to its end, a text is a gap, a token, a gap, a token, and so on, up to a last gap.
Every token has characters; a gap has only blanks and comments, and a token starts with neither. So
the places of the tokens are in order, and each of them is between two characters.

A scanner gives one token at a time. It stands between two characters before each of them, and from
the last one on it gives the end of the text.

## Main definitions

* `Trivia`: blanks and comments one after another
* `Tiles`: a text as gaps and tokens
* `Text.slice?`: the characters between two byte offsets
* `Tiling`: what the places of the tokens of a text are like
* `Scanner.nextToken`: one token, and the scanner after it

## Main statements

* `triviaLength_splits`, `trivia_take`: what is passed over before a token
* `tiles_scanFrom`: a text as the gaps and tokens that it is cut into
* `Scanner.token_eq`: the tokens that a scanner gives, one after another
* `tiling_scan`: the tokens of a text tile it, and the scanner reaches its end
-/

namespace ScriptSteps

/-! ## Gaps -/

/-- Blanks and comments one after another. At the end of a text, the last comment may be open. -/
inductive Trivia (atEnd : Bool) : List Char → Prop
  | nil : Trivia atEnd []
  | blank {c : Char} {cs : List Char} (hc : Text.isBlank c = true) (hcs : Trivia atEnd cs) :
      Trivia atEnd (c :: cs)
  | lineComment {text : List Char} {c : Char} {cs : List Char}
      (htext : ∀ d ∈ text, Text.isLineEnd d = false) (hc : Text.isLineEnd c = true)
      (hcs : Trivia atEnd cs) : Trivia atEnd ('/' :: '/' :: (text ++ c :: cs))
  | blockComment {text cs : List Char} (htext : ¬['*', '/'] <:+: text) (hcs : Trivia atEnd cs) :
      Trivia atEnd ('/' :: '*' :: (text ++ '*' :: '/' :: cs))
  | openLine {text : List Char} (hend : atEnd = true)
      (htext : ∀ d ∈ text, Text.isLineEnd d = false) : Trivia atEnd ('/' :: '/' :: text)
  | openBlock {text : List Char} (hend : atEnd = true) (htext : ¬['*', '/'] <:+: text) :
      Trivia atEnd ('/' :: '*' :: text)

/-- A text at whose front there is neither a blank nor a comment, nor its end. -/
def StartsToken (cs : List Char) : Prop :=
  (∃ c ∈ cs.head?, Text.isBlank c = false) ∧ ¬['/', '/'] <+: cs ∧ ¬['/', '*'] <+: cs

/-- A comment up to the end of its line, which comes or does not. -/
theorem lineCommentLength_splits (cs : List Char) :
    ∃ text, (∀ d ∈ text, Text.isLineEnd d = false)
      ∧ ((cs = text ∧ lineCommentLength cs = text.length)
        ∨ ∃ c ds, Text.isLineEnd c = true ∧ cs = text ++ c :: ds
          ∧ lineCommentLength cs = text.length + 1 + triviaLength ds) := by
  induction cs with
  | nil => exact ⟨[], by simp, .inl ⟨rfl, rfl⟩⟩
  | cons c cs ih =>
    by_cases hc : Text.isLineEnd c = true
    · exact ⟨[], by simp, .inr ⟨c, cs, hc, rfl, by simp [lineCommentLength, hc]⟩⟩
    · obtain ⟨text, htext, hsplit⟩ := ih
      refine ⟨c :: text, by simpa [hc] using htext, ?_⟩
      rcases hsplit with ⟨rfl, hlength⟩ | ⟨d, ds, hd, rfl, hlength⟩
      · exact .inl ⟨rfl, by simp [lineCommentLength, hc, hlength, Nat.add_comm]⟩
      · refine .inr ⟨d, ds, hd, rfl, ?_⟩
        simp only [lineCommentLength, hc, hlength, List.length_cons, Bool.false_eq_true, if_false]
        omega

/-- A comment up to its first end, which comes or does not. -/
theorem blockCommentLength_splits (cs : List Char) :
    ∃ text, ¬['*', '/'] <:+: text
      ∧ ((cs = text ∧ blockCommentLength cs = text.length)
        ∨ ∃ ds, cs = text ++ '*' :: '/' :: ds
          ∧ blockCommentLength cs = text.length + 2 + triviaLength ds) := by
  induction cs with
  | nil => exact ⟨[], by simp, .inl ⟨rfl, rfl⟩⟩
  | cons c cs ih =>
    by_cases hends : ∃ ds, c = '*' ∧ cs = '/' :: ds
    · obtain ⟨ds, rfl, rfl⟩ := hends
      exact ⟨[], by simp, .inr ⟨ds, rfl, by simp [blockCommentLength]⟩⟩
    · obtain ⟨text, htext, hsplit⟩ := ih
      have hstep : blockCommentLength (c :: cs) = 1 + blockCommentLength cs :=
        blockCommentLength.eq_3 c cs fun ds hc hcs => hends ⟨ds, hc, hcs⟩
      -- The end of the comment would have to start with this character.
      have hnone : ¬['*', '/'] <:+: c :: text := by
        rw [List.infix_cons_iff]
        rintro (hfront | hlater)
        · obtain ⟨hc, tail, rfl⟩ := List.cons_prefix_cons.1 hfront
          rcases hsplit with ⟨rfl, -⟩ | ⟨ds, rfl, -⟩
          · exact hends ⟨_, hc.symm, rfl⟩
          · exact hends ⟨_, hc.symm, rfl⟩
        · exact htext hlater
      refine ⟨c :: text, hnone, ?_⟩
      rw [hstep]
      rcases hsplit with ⟨rfl, hlength⟩ | ⟨ds, rfl, hlength⟩
      · exact .inl ⟨rfl, by simp only [List.length_cons]; omega⟩
      · exact .inr ⟨ds, rfl, by simp only [List.length_cons]; omega⟩

/-- What is passed over before a token, and what follows it. -/
theorem triviaLength_splits (cs : List Char) :
    ∃ gap rest, cs = gap ++ rest ∧ triviaLength cs = gap.length
      ∧ Trivia (decide (rest = [])) gap ∧ (rest ≠ [] → StartsToken rest) := by
  induction hsize : cs.length using Nat.strong_induction_on generalizing cs with
  | _ n ih =>
    fun_cases triviaLength cs with
    | case1 => exact ⟨[], [], rfl, rfl, .nil, fun h => absurd rfl h⟩
    | case2 cs =>
      obtain ⟨text, htext, ⟨rfl, hlength⟩ | ⟨c, ds, hc, rfl, hlength⟩⟩ :=
        lineCommentLength_splits cs
      · refine ⟨'/' :: '/' :: cs, [], by simp, ?_, .openLine (by simp) htext, fun h => absurd rfl h⟩
        simp only [hlength, List.length_cons]
        omega
      · obtain ⟨gap, rest, rfl, hgap, htrivia, hrest⟩ := ih ds.length (by grind) ds rfl
        refine ⟨'/' :: '/' :: (text ++ c :: gap), rest, by simp, ?_,
          .lineComment htext hc htrivia, hrest⟩
        simp only [hlength, hgap, List.length_cons, List.length_append]
        omega
    | case3 cs =>
      obtain ⟨text, htext, ⟨rfl, hlength⟩ | ⟨ds, rfl, hlength⟩⟩ := blockCommentLength_splits cs
      · refine ⟨'/' :: '*' :: cs, [], by simp, ?_, .openBlock (by simp) htext,
          fun h => absurd rfl h⟩
        simp only [hlength, List.length_cons]
        omega
      · obtain ⟨gap, rest, rfl, hgap, htrivia, hrest⟩ := ih ds.length (by grind) ds rfl
        refine ⟨'/' :: '*' :: (text ++ '*' :: '/' :: gap), rest, by simp, ?_,
          .blockComment htext htrivia, hrest⟩
        simp only [hlength, hgap, List.length_cons, List.length_append]
        omega
    | case4 c cs hline hblock hblank =>
      obtain ⟨gap, rest, rfl, hgap, htrivia, hrest⟩ := ih cs.length (by grind) cs rfl
      refine ⟨c :: gap, rest, by simp, ?_, .blank hblank htrivia, hrest⟩
      simp only [hgap, List.length_cons]
      omega
    | case5 c cs hline hblock hblank =>
      have hfront : ∀ d, (∀ ds, c = '/' → cs = d :: ds → False) → ¬['/', d] <+: c :: cs := by
        intro d hnone hprefix
        obtain ⟨hc, ds, rfl⟩ := List.cons_prefix_cons.1 hprefix
        exact hnone ds hc.symm rfl
      exact ⟨[], c :: cs, rfl, rfl, .nil, fun _ =>
        ⟨⟨c, rfl, by simpa using hblank⟩, hfront '/' hline, hfront '*' hblock⟩⟩

theorem triviaLength_le (cs : List Char) : triviaLength cs ≤ cs.length := by
  obtain ⟨gap, rest, rfl, hlength, -, -⟩ := triviaLength_splits cs
  rw [hlength, List.length_append]
  exact Nat.le_add_right _ _

/-- What stands before the first token of a text is a gap, and with what follows starts a token. -/
theorem trivia_take (cs : List Char) :
    Trivia (decide (cs.drop (triviaLength cs) = [])) (cs.take (triviaLength cs))
      ∧ (cs.drop (triviaLength cs) ≠ [] → StartsToken (cs.drop (triviaLength cs))) := by
  obtain ⟨gap, rest, hcs, hlength, hgap, hstarts⟩ := triviaLength_splits cs
  have hdrop : cs.drop (triviaLength cs) = rest := by rw [hlength, hcs, List.drop_left]
  have htake : cs.take (triviaLength cs) = gap := by rw [hlength, hcs, List.take_left]
  rw [hdrop, htake]
  exact ⟨hgap, hstarts⟩

/-! ## Gaps and tokens -/

/-- A text whose first character is at a byte offset, as the gaps before, between and after
tokens. -/
inductive Tiles : ℕ → List Char → List Token → Prop
  | gap {offset : ℕ} {gap : List Char} (hgap : Trivia true gap) : Tiles offset gap []
  | token {offset : ℕ} {gap text cs : List Char} {t : Token} {ts : List Token}
      (hgap : Trivia false gap) (htext : text ≠ []) (hstarts : StartsToken (text ++ cs))
      (hstart : t.start = offset + Text.byteSize gap)
      (hstop : t.stop = t.start + Text.byteSize text) (hcs : Tiles t.stop cs ts) :
      Tiles offset (gap ++ (text ++ cs)) (t :: ts)

/-- A text as the gaps and tokens that it is cut into. -/
theorem tiles_scanFrom (p : Position) (cs : List Char) :
    Tiles p.offset cs (scanFrom p cs).1 := by
  induction cs using scan_induction generalizing p with
  | blank cs hdrop =>
    have hgap := (trivia_take cs).1
    rw [hdrop, List.take_of_length_le (List.drop_eq_nil_iff.1 hdrop)] at hgap
    rw [scanFrom_nil hdrop]
    exact .gap hgap
  | token cs first rest hdrop ih =>
    obtain ⟨hgap, hstarts⟩ := trivia_take cs
    have hfirst := firstToken_of_drop hdrop
    have hnonempty : first :: rest.take (lexeme first rest).2 ≠ [] := by simp
    rw [hfirst.scanFrom_eq]
    rw [hfirst.drop_eq] at hgap hstarts
    generalize cs.take (triviaLength cs) = gap at *
    generalize first :: rest.take (lexeme first rest).2 = text at *
    generalize rest.drop (lexeme first rest).2 = after at *
    obtain rfl := hfirst.chars_eq
    refine .token (by simpa [hnonempty] using hgap) hnonempty (hstarts (by simp [hnonempty]))
      ?_ ?_ (ih _)
    · simp only [Position.offset_past]
    · simp only [Position.offset_past, Text.byteSize_append, Nat.add_assoc]

/-! ## Places -/

namespace Text

/-- The characters between two byte offsets; none if these are out of order, out of range or inside
a character. -/
def slice? (cs : List Char) (start stop : ℕ) : Option (List Char) :=
  if stop < start then none
  else do
    let (_, rest) ← splitAtByte? start cs
    let (text, _) ← splitAtByte? (stop - start) rest
    return text

theorem slice?_append (before text after : List Char) :
    slice? (before ++ (text ++ after)) (byteSize before) (byteSize before + byteSize text)
      = some text := by
  simp [slice?]

theorem byteSize_pos {cs : List Char} (h : cs ≠ []) : 0 < byteSize cs := by
  by_contra hzero
  exact h (eq_nil_of_byteSize (by omega))

/-- Where two parts of a text meet, no character is cut. -/
theorem isValid_byteSize {source : String} {before after : List Char}
    (h : source.toList = before ++ after) :
    String.Pos.Raw.IsValid source ⟨byteSize before⟩ := by
  refine String.Pos.Raw.isValid_iff_exists_append.2 ⟨.ofList before, .ofList after, ?_, ?_⟩
  · rw [← String.ofList_append, ← h, String.ofList_toList]
  · have hsize := byteSize_toList (.ofList before)
    rw [String.toList_ofList] at hsize
    rw [hsize]
    rfl

end Text

/-- Where the gaps before, between and after tokens start and stop. -/
def gapSpans (offset : ℕ) (tokens : List Token) (finish : ℕ) : List (ℕ × ℕ) :=
  (offset :: tokens.map Token.stop).zip (tokens.map Token.start ++ [finish])

/-- What the places of tokens are like if they tile a text from an offset on. -/
structure Tiling (source : String) (offset : ℕ) (tokens : List Token) : Prop where
  /-- Every token has characters. -/
  nonempty : ∀ t ∈ tokens, t.start < t.stop
  /-- No token starts before the one before it stops. -/
  ordered : tokens.IsChain fun t u => t.stop ≤ u.start
  /-- Every token starts and stops between characters of the text. -/
  boundary : ∀ t ∈ tokens,
    String.Pos.Raw.IsValid source ⟨t.start⟩ ∧ String.Pos.Raw.IsValid source ⟨t.stop⟩
  /-- With a token there starts neither a blank nor a comment. -/
  starts : ∀ t ∈ tokens, ∃ text rest,
    Text.slice? source.toList t.start t.stop = some text
      ∧ Text.slice? source.toList t.stop source.utf8ByteSize = some rest
      ∧ StartsToken (text ++ rest)
  /-- Around tokens there are only blanks and comments. -/
  gaps : ∀ span ∈ gapSpans offset tokens source.utf8ByteSize, ∃ gap,
    Text.slice? source.toList span.1 span.2 = some gap
      ∧ Trivia (decide (span.2 = source.utf8ByteSize)) gap

theorem Tiles.le_start {offset : ℕ} {cs : List Char} {ts : List Token} (h : Tiles offset cs ts) :
    ∀ t ∈ ts.head?, offset ≤ t.start := by
  cases h with
  | gap hgap => simp
  | token hgap htext hstarts hstart hstop hcs =>
    rintro _ ⟨⟩
    omega

/-- Gaps and tokens that make up the rest of a text tile it from there on. -/
theorem Tiles.tiling {source : String} {offset : ℕ} {cs : List Char} {ts : List Token}
    (h : Tiles offset cs ts) {before : List Char} (hsource : source.toList = before ++ cs)
    (hoffset : offset = Text.byteSize before) : Tiling source offset ts := by
  induction h generalizing before with
  | @gap offset gap hgap =>
    have hsize : source.utf8ByteSize = offset + Text.byteSize gap := by
      rw [← Text.byteSize_toList, hsource, Text.byteSize_append, hoffset]
    refine ⟨by simp, .nil, by simp, by simp, ?_⟩
    intro span hspan
    obtain rfl : span = (offset, source.utf8ByteSize) := by simpa [gapSpans] using hspan
    refine ⟨gap, ?_, by simpa using hgap⟩
    have hslice := Text.slice?_append before gap []
    rwa [List.append_nil, ← hsource, ← hoffset, ← hsize] at hslice
  | @token offset gap text cs t ts hgap htext hstarts hstart hstop hcs ih =>
    have hbefore : source.toList = before ++ gap ++ (text ++ cs) := by simp [hsource]
    have hafter : source.toList = before ++ gap ++ text ++ cs := by simp [hsource]
    have hstart' : t.start = Text.byteSize (before ++ gap) := by
      rw [hstart, hoffset, Text.byteSize_append]
    have hstop' : t.stop = Text.byteSize (before ++ gap ++ text) := by
      rw [hstop, hstart', Text.byteSize_append (before ++ gap)]
    have hsize : source.utf8ByteSize = t.stop + Text.byteSize cs := by
      rw [← Text.byteSize_toList, hafter, Text.byteSize_append, hstop']
    have hpositive := Text.byteSize_pos htext
    obtain ⟨hnonempty, hordered, hboundary, hstarted, hgaps⟩ := ih hafter hstop'
    refine ⟨?_, ?_, ?_, ?_, ?_⟩
    · exact List.forall_mem_cons.2 ⟨by omega, hnonempty⟩
    · exact List.isChain_cons.2 ⟨hcs.le_start, hordered⟩
    · refine List.forall_mem_cons.2 ⟨?_, hboundary⟩
      rw [hstart', hstop']
      exact ⟨Text.isValid_byteSize hbefore, Text.isValid_byteSize hafter⟩
    · refine List.forall_mem_cons.2 ⟨⟨text, cs, ?_, ?_, hstarts⟩, hstarted⟩
      · have hslice := Text.slice?_append (before ++ gap) text cs
        rwa [← hbefore, ← hstart', ← hstop] at hslice
      · have hslice := Text.slice?_append (before ++ gap ++ text) cs []
        rwa [List.append_nil, ← hafter, ← hstop', ← hsize] at hslice
    · refine List.forall_mem_cons.2 ⟨⟨gap, ?_, ?_⟩, hgaps⟩
      · have hslice := Text.slice?_append before gap (text ++ cs)
        rwa [← hsource, ← hoffset, ← hstart] at hslice
      · -- The token after the gap has characters, so the gap stops before the end of the text.
        have hinside : t.start ≠ source.utf8ByteSize := by omega
        simpa [hinside] using hgap

theorem Tiles.length_le {offset : ℕ} {cs : List Char} {ts : List Token} (h : Tiles offset cs ts) :
    ts.length ≤ cs.length := by
  induction h with
  | gap hgap => simp
  | token hgap htext hstarts hstart hstop hcs ih =>
    have := List.length_pos_iff.2 htext
    simp only [List.length_cons, List.length_append]
    omega

/-! ## One token at a time -/

/-- A scanner: the place it stands at and the characters from there on. -/
structure Scanner where
  position : Position
  rest : List Char

/-- What is given at the end of a text, which is at the given place. -/
def Token.ofEnd (finish : Position) : Token :=
  ⟨.endOfInput, finish.offset, finish.offset, finish.line⟩

namespace Scanner

/-- The scanner at the start of a text. -/
def ofSource (source : String) : Scanner := ⟨.start, source.toList⟩

/-- The next token, or the end of the text, and the scanner after it. -/
def nextToken (s : Scanner) : Token × Scanner :=
  let start := tokenStart s.position s.rest
  match s.rest.drop (triviaLength s.rest) with
  | [] => (.ofEnd start, ⟨start, []⟩)
  | first :: rest =>
    let (kind, length) := lexeme first rest
    let stop := start.past (first :: rest.take length) (rest.drop length)
    (⟨kind, start.offset, stop.offset, start.line⟩, ⟨stop, rest.drop length⟩)

/-- The scanner after a number of tokens. -/
def after (s : Scanner) (n : ℕ) : Scanner := (fun s => s.nextToken.2)^[n] s

/-- The token that comes after a number of others. -/
def token (s : Scanner) (n : ℕ) : Token := (s.after n).nextToken.1

variable {s : Scanner}

theorem nextToken_nil (h : s.rest.drop (triviaLength s.rest) = []) :
    s.nextToken = (.ofEnd (s.position.past s.rest []), ⟨s.position.past s.rest [], []⟩) := by
  have hall : s.rest.take (triviaLength s.rest) = s.rest :=
    List.take_of_length_le (List.drop_eq_nil_iff.1 h)
  simp [nextToken, h, tokenStart, hall]

theorem scanFrom_nextToken {first : Char} {rest : List Char}
    (h : s.rest.drop (triviaLength s.rest) = first :: rest) :
    scanFrom s.position s.rest
      = (s.nextToken.1 :: (scanFrom s.nextToken.2.position s.nextToken.2.rest).1,
        (scanFrom s.nextToken.2.position s.nextToken.2.rest).2) := by
  obtain ⟨stop, rfl, hscan⟩ := scanFrom_cons (p := s.position) h
  simpa [nextToken, h] using hscan

/-- A scanner gives the tokens of the text one after another, and then its end. -/
theorem token_eq (s : Scanner) (n : ℕ) :
    s.token n = (scanFrom s.position s.rest).1[n]?.getD
      (.ofEnd (scanFrom s.position s.rest).2) := by
  induction n generalizing s with
  | zero =>
    cases h : s.rest.drop (triviaLength s.rest) with
    | nil =>
      rw [scanFrom_nil h]
      exact congrArg Prod.fst (nextToken_nil h)
    | cons first rest =>
      rw [scanFrom_nextToken h]
      rfl
  | succ n ih =>
    have hnext : s.token (n + 1) = s.nextToken.2.token n := rfl
    rw [hnext, ih]
    cases h : s.rest.drop (triviaLength s.rest) with
    | nil =>
      rw [nextToken_nil h, scanFrom_nil h, scanFrom_nil rfl]
      rfl
    | cons first rest =>
      rw [scanFrom_nextToken h]
      rfl

/-- A scanner that has read the front of a text and stands between two characters. -/
def StandsIn (s : Scanner) (source : String) : Prop :=
  ∃ before, source.toList = before ++ s.rest ∧ s.position.offset = Text.byteSize before

variable {source : String}

theorem standsIn_ofSource (source : String) : (ofSource source).StandsIn source := ⟨[], rfl, rfl⟩

/-- However many characters are read, the scanner stands between two of them. -/
theorem StandsIn.past (h : s.StandsIn source) (n : ℕ) :
    StandsIn ⟨s.position.past (s.rest.take n) (s.rest.drop n), s.rest.drop n⟩ source := by
  obtain ⟨before, hsource, hoffset⟩ := h
  refine ⟨before ++ s.rest.take n, ?_, ?_⟩
  · rw [List.append_assoc, List.take_append_drop, hsource]
  · rw [Position.offset_past, hoffset, Text.byteSize_append]

theorem StandsIn.nextToken (h : s.StandsIn source) : s.nextToken.2.StandsIn source := by
  have hgap := h.past (triviaLength s.rest)
  cases hdrop : s.rest.drop (triviaLength s.rest) with
  | nil => simpa [Scanner.nextToken, tokenStart, hdrop] using hgap
  | cons first rest =>
    have htoken := hgap.past ((lexeme first rest).2 + 1)
    simpa [Scanner.nextToken, tokenStart, hdrop] using htoken

theorem StandsIn.after (h : s.StandsIn source) (n : ℕ) : (s.after n).StandsIn source := by
  induction n with
  | zero => exact h
  | succ n ih =>
    rw [Scanner.after, Function.iterate_succ_apply']
    exact ih.nextToken

theorem StandsIn.isValid (h : s.StandsIn source) :
    String.Pos.Raw.IsValid source ⟨s.position.offset⟩ := by
  obtain ⟨before, hsource, hoffset⟩ := h
  rw [hoffset]
  exact Text.isValid_byteSize hsource

theorem StandsIn.slice? (h : s.StandsIn source) :
    Text.slice? source.toList s.position.offset source.utf8ByteSize = some s.rest := by
  obtain ⟨before, hsource, hoffset⟩ := h
  have hslice := Text.slice?_append before s.rest []
  rwa [List.append_nil, ← Text.byteSize_append, ← hsource, Text.byteSize_toList,
    ← hoffset] at hslice

end Scanner

/-- The tokens of a text tile it. They are no more than its characters, and a scanner gives them one
by one and from then on the end of the text. Before each of them, the scanner stands between two
characters; the gap and the token that it then takes are no longer than the rest of the text, and
however many characters it goes on from there, it stands between two of them again. -/
theorem tiling_scan (source : String) :
    Tiling source 0 (scan source).1
      ∧ ((scan source).1.length ≤ source.length
        ∧ (∀ t ∈ (scan source).1, t.kind ≠ .endOfInput)
        ∧ ∀ n, (Scanner.ofSource source).token n = (scan source).1[n]?.getD
            ⟨.endOfInput, source.utf8ByteSize, source.utf8ByteSize, (scan source).2.line⟩)
      ∧ ∀ n, let s := (Scanner.ofSource source).after n
        Text.slice? source.toList s.position.offset source.utf8ByteSize = some s.rest
          ∧ (triviaLength s.rest ≤ s.rest.length
            ∧ ∀ first rest, s.rest.drop (triviaLength s.rest) = first :: rest →
              (lexeme first rest).2 ≤ rest.length)
          ∧ ∀ k, String.Pos.Raw.IsValid source
            ⟨(s.position.past (s.rest.take k) (s.rest.drop k)).offset⟩ := by
  have htiles : Tiles 0 source.toList (scan source).1 := tiles_scanFrom .start source.toList
  refine ⟨htiles.tiling (List.nil_append _).symm rfl, ⟨?_, ?_, ?_⟩, ?_⟩
  · rw [← String.length_toList]
    exact htiles.length_le
  · intro t ht
    exact forall_mem_kindsOf (p := (· ≠ .endOfInput)) lexeme_ne_endOfInput source.toList t.kind
      (List.mem_map_of_mem ht)
  · intro n
    rw [Scanner.token_eq, ← offset_scan]
    rfl
  · intro n
    have hstands := (Scanner.standsIn_ofSource source).after n
    exact ⟨hstands.slice?, ⟨triviaLength_le _, fun first rest _ => length_lexeme_le first rest⟩,
      fun k => (hstands.past k).isValid⟩

end ScriptSteps
