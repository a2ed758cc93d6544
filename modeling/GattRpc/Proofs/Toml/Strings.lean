import GattRpc.Toml.Quoted
import GattRpc.Toml.Scanner

/-! # Reading quoted strings

Every string is read back from the notation that it is written in, whatever its characters are, as
long as no further quote follows. The notations that keep characters as they are do so only for
strings that hold nothing they would misread: no control characters, and no run of quotes that
would close the string. -/

namespace GattRpc.Toml.Read

variable {c q : Char} {ds cs text rest seen : List Char} {steps n r : Nat}

/-! ### Escapes -/

/-- What a character is written as where escapes are read: an escape that means it, or itself. -/
inductive Escaped (c : Char) : List Char → Prop
  | escape {x : Char} {ds : List Char} (letter : isBlank x = false ∧ x ≠ '\n' ∧ x ≠ '\r')
    (means : ∀ rest, escape (x :: ds ++ rest) = some (c, rest)) : Escaped c ('\\' :: x :: ds)
  | plain (quote : c ≠ '"') (backslash : c ≠ '\\') (printable : isPrintable c = true) :
    Escaped c [c]

theorem value?_capital : ∀ d < 16, Hexadecimal.value? (Hexadecimal.capital d) = some d := by
  decide

theorem valid_char (is : n = c.toNat) :
    (if h : n.isValidChar then some (Char.ofNatAux n h, rest) else none) = some (c, rest) := by
  subst is
  exact dif_pos c.valid

theorem codePoint_control (small : c.toNat < 0x80) :
    codePoint 4 (['0', '0', Hexadecimal.capital (c.toNat / 16),
      Hexadecimal.capital (c.toNat % 16)] ++ rest) = some (c, rest) := by
  have high := value?_capital (c.toNat / 16) (by omega)
  have low := value?_capital (c.toNat % 16) (by omega)
  have zero : Hexadecimal.value? '0' = some 0 := by decide
  have values : ['0', '0', Hexadecimal.capital (c.toNat / 16),
      Hexadecimal.capital (c.toNat % 16)].mapM Hexadecimal.value? =
        some [0, 0, c.toNat / 16, c.toNat % 16] := by
    simp [high, low, zero]
  unfold codePoint
  change (([_, _, _, _] : List Char).mapM Hexadecimal.value? >>= _) = _
  rw [values]
  exact valid_char (by simp only [List.foldl_cons, List.foldl_nil]; omega)

theorem isPrintable_of_not_isControl (control : isControl c = false) (line : c ≠ '\n') :
    isPrintable c = true := by
  simp only [isControl, Bool.or_eq_false_iff, Bool.and_eq_false_iff, decide_eq_false_iff_not,
    Decidable.not_not] at control
  simp only [isPrintable, Bool.or_eq_true, Bool.and_eq_true, decide_eq_true_eq]
  obtain ⟨low, delete⟩ := control
  rcases low with (low | tab) | break'
  · exact .inr ⟨by omega, delete⟩
  · exact .inl tab
  · exact absurd break' line

/-- A printable character breaks no line. -/
theorem ne_break (printable : isPrintable c = true) : c ≠ '\n' ∧ c ≠ '\r' := by
  constructor
  · rintro rfl
    exact absurd printable (by decide)
  · rintro rfl
    exact absurd printable (by decide)

theorem newline?_eq_none (line : c ≠ '\n') (back : c ≠ '\r') : newline? (c :: rest) = none := by
  unfold newline?
  split
  · next is => exact absurd (List.cons.inj is).1 line
  · next is => exact absurd (List.cons.inj is).1 back
  · rfl

theorem escaped_escaped (quote : c ≠ '"') (line : c ≠ '\n') : Escaped c (escaped c) := by
  by_cases letter : c = '\t' ∨ c = '\\' ∨ c = '\x08' ∨ c = '\x0c' ∨ c = '\r'
  · rcases letter with rfl | rfl | rfl | rfl | rfl
    all_goals exact .escape (by decide) fun _ => rfl
  simp only [not_or] at letter
  obtain ⟨tab, backslash, bell, feed, back⟩ := letter
  rw [escaped, if_neg tab, if_neg backslash, if_neg bell, if_neg feed, if_neg back]
  split
  · next control =>
    have small : c.toNat < 0x80 := by
      simp only [isControl, Bool.or_eq_true, Bool.and_eq_true, decide_eq_true_eq] at control
      omega
    exact .escape (by decide) fun _ => codePoint_control small
  · next control =>
    exact .plain quote backslash
      (isPrintable_of_not_isControl (Bool.eq_false_iff.2 control) line)

theorem escaped_quote : Escaped '"' ['\\', '"'] := .escape (by decide) fun _ => rfl

theorem escaped_newline : Escaped '\n' ['\\', 'n'] := .escape (by decide) fun _ => rfl

/-- What a character is written as starts neither with a quote nor with a line break. -/
theorem Escaped.head (e : Escaped c ds) :
    ∃ x ds', ds = x :: ds' ∧ x ≠ '"' ∧ x ≠ '\n' ∧ x ≠ '\r' := by
  cases e with
  | escape => exact ⟨_, _, rfl, by decide⟩
  | plain quote _ printable => exact ⟨c, [], rfl, quote, ne_break printable⟩

/-! ### Texts that are read

A text is read as some characters if a scanner goes through it with so many steps, whatever came
before. -/

/-- The scanner reads a text as these characters, in `n` steps or more, up to `rest`. -/
def Reads (chars : Nat → List Char → Scan (List Char)) (n : Nat) (text cs rest : List Char) :
    Prop :=
  ∀ steps seen, n ≤ steps → chars steps seen text = some (seen.reverse ++ cs, rest)

variable {chars : Nat → List Char → Scan (List Char)}

/-- A scanner that takes one character in one step reads it in front of what it reads. -/
theorem Reads.step (reads : Reads chars n text cs rest) {text' : List Char}
    (step : ∀ steps seen, chars (steps + 1) seen text' = chars steps (c :: seen) text) :
    Reads chars (n + 1) text' (c :: cs) rest := by
  intro steps seen enough
  obtain ⟨left, rfl⟩ : ∃ left, steps = left + 1 := ⟨steps - 1, by omega⟩
  rw [step, reads left (c :: seen) (by omega), List.reverse_cons, List.append_assoc]
  rfl

/-! ### Strings on one line -/

theorem Reads.basic (reads : Reads basicChars n text cs rest) (e : Escaped c ds) :
    Reads basicChars (n + 1) (ds ++ text) (c :: cs) rest := by
  refine reads.step fun steps seen => ?_
  cases e with
  | escape _ means =>
    rw [List.cons_append, basicChars, if_neg (by decide), if_pos rfl, means]
    rfl
  | plain quote backslash printable =>
    rw [List.singleton_append, basicChars, if_neg quote, if_neg backslash, if_pos printable]

theorem basicBody_cons : basicBody (c :: cs) = basicBody [c] ++ basicBody cs := by
  simp [basicBody]

theorem escaped_basicBody (c : Char) : Escaped c (basicBody [c]) := by
  rw [basicBody, List.flatMap_singleton]
  split
  · next quote => exact quote ▸ escaped_quote
  · next quote =>
    split
    · next line => exact line ▸ escaped_newline
    · next line => exact escaped_escaped quote line

theorem reads_basicBody (cs rest : List Char) :
    Reads basicChars (cs.length + 1) (basicBody cs ++ '"' :: rest) cs rest := by
  induction cs with
  | nil =>
    intro steps seen enough
    obtain ⟨left, rfl⟩ := Nat.exists_eq_add_of_le' enough
    rw [List.append_nil]
    rfl
  | cons c cs ih =>
    rw [basicBody_cons, List.append_assoc]
    exact ih.basic (escaped_basicBody c)

theorem length_le_basicBody (cs : List Char) : cs.length ≤ (basicBody cs).length := by
  induction cs with
  | nil => exact Nat.zero_le _
  | cons c cs ih =>
    obtain ⟨x, ds, is, -⟩ := (escaped_basicBody c).head
    rw [basicBody_cons, is, List.length_append]
    simp only [List.length_cons]
    omega

theorem literalChars_plain (plain : ∀ c ∈ cs, (isPrintable c && c ≠ '\'') = true) :
    literalChars (cs ++ '\'' :: rest) = some (cs, rest) := by
  rw [literalChars, List.takeWhile_append_of_pos plain, List.dropWhile_append_of_pos plain,
    List.dropWhile_cons_of_neg (by decide), List.takeWhile_cons_of_neg (by decide),
    List.append_nil]
  rfl

/-! ### Runs of quotes -/

/-- A scanner takes a run of quotes at once. -/
def TakesRuns (q : Char) (chars : Nat → List Char → Scan (List Char)) : Prop :=
  ∀ steps seen rest, chars (steps + 1) seen (q :: rest) = do
    let (quotes, closed, rest) ← quoteRun q (q :: rest)
    if closed then some ((quotes ++ seen).reverse, rest) else chars steps (quotes ++ seen) rest

theorem longBasicChars_takesRuns : TakesRuns '"' longBasicChars := by
  intro steps seen rest
  rw [longBasicChars, if_pos rfl]

theorem longLiteralChars_takesRuns : TakesRuns '\'' longLiteralChars := by
  intro steps seen rest
  rw [longLiteralChars, if_pos rfl]

theorem quoteRun_replicate (other : rest.head? ≠ some q) :
    (List.replicate n q ++ rest).takeWhile (· = q) = List.replicate n q ∧
      (List.replicate n q ++ rest).dropWhile (· = q) = rest := by
  have all : ∀ c ∈ List.replicate n q, decide (c = q) = true := by
    intro c hc
    simpa using List.eq_of_mem_replicate hc
  rw [List.takeWhile_append_of_pos all, List.dropWhile_append_of_pos all]
  cases rest with
  | nil => simp
  | cons x rest =>
    have ne : x ≠ q := by simpa using other
    rw [List.takeWhile_cons_of_neg (by simp [ne]), List.dropWhile_cons_of_neg (by simp [ne]),
      List.append_nil]
    exact ⟨rfl, rfl⟩

theorem quoteRun_open (few : n ≤ 2) (other : rest.head? ≠ some q) :
    quoteRun q (List.replicate n q ++ rest) = some (List.replicate n q, false, rest) := by
  obtain ⟨run, more⟩ := quoteRun_replicate (n := n) other
  simp only [quoteRun, run, more, List.length_replicate]
  rw [if_pos (by omega)]

theorem quoteRun_close (few : n ≤ 2) (other : rest.head? ≠ some q) :
    quoteRun q (List.replicate (n + 3) q ++ rest) = some (List.replicate n q, true, rest) := by
  obtain ⟨run, more⟩ := quoteRun_replicate (n := n + 3) other
  simp only [quoteRun, run, more, List.length_replicate]
  rw [if_neg (by omega), if_pos (by omega), List.drop_replicate, Nat.add_sub_cancel]

/-- Up to two quotes belong to the string. -/
theorem Reads.quotes (runs : TakesRuns q chars) (reads : Reads chars n text cs rest) (few : r ≤ 2)
    (other : text.head? ≠ some q) :
    Reads chars (n + r) (List.replicate r q ++ text) (List.replicate r q ++ cs) rest := by
  intro steps seen enough
  cases r with
  | zero => exact reads steps seen enough
  | succ r =>
    obtain ⟨left, rfl⟩ : ∃ left, steps = left + 1 := ⟨steps - 1, by omega⟩
    rw [List.replicate_succ, List.cons_append, runs, ← List.cons_append, ← List.replicate_succ,
      quoteRun_open few other]
    simp only [Option.bind_eq_bind, Option.bind_some, Bool.false_eq_true, if_false]
    rw [reads left _ (by omega), List.reverse_append, List.reverse_replicate, List.append_assoc]

/-- Three quotes close the string, after up to two that belong to it. -/
theorem reads_closing (runs : TakesRuns q chars) (few : r ≤ 2) (other : rest.head? ≠ some q) :
    Reads chars 1 (List.replicate (r + 3) q ++ rest) (List.replicate r q) rest := by
  intro steps seen enough
  obtain ⟨left, rfl⟩ := Nat.exists_eq_add_of_le' enough
  rw [List.replicate_succ, List.cons_append, runs, ← List.cons_append, ← List.replicate_succ,
    quoteRun_close few other]
  simp only [Option.bind_eq_bind, Option.bind_some, if_true]
  rw [List.reverse_append, List.reverse_replicate]

/-! ### Strings of several lines -/

theorem Reads.longBasic (reads : Reads longBasicChars n text cs rest) (e : Escaped c ds) :
    Reads longBasicChars (n + 1) (ds ++ text) (c :: cs) rest := by
  refine reads.step fun steps seen => ?_
  cases e with
  | @escape x ds letter means =>
    obtain ⟨blank, line, back⟩ := letter
    have goesOn : newline? (skipBlanks (x :: ds ++ text)) = none := by
      rw [List.cons_append, skipBlanks, List.dropWhile_cons_of_neg (by simp [blank])]
      exact newline?_eq_none line back
    rw [List.cons_append, longBasicChars, if_neg (by decide), if_pos rfl, goesOn]
    simp only [means]
    rfl
  | plain quote backslash printable =>
    obtain ⟨line, back⟩ := ne_break printable
    rw [List.singleton_append, longBasicChars, if_neg quote, if_neg backslash,
      newline?_eq_none line back]
    simp only [if_pos printable]

theorem Reads.newline {chars : Nat → List Char → Scan (List Char)}
    (breaks : ∀ steps seen rest, chars (steps + 1) seen ('\n' :: rest) =
      chars steps ('\n' :: seen) rest) (reads : Reads chars n text cs rest) :
    Reads chars (n + 1) ('\n' :: text) ('\n' :: cs) rest :=
  reads.step fun steps seen => breaks steps seen text

theorem replicate_quotes (r : Nat) (text : List Char) :
    List.replicate r q ++ q :: text = List.replicate (r + 1) q ++ text := by
  rw [List.replicate_succ', List.append_assoc, List.singleton_append]

/-- The last one or two quotes that were written still wait for what follows them. -/
theorem reads_longBasicBody (few : r ≤ 2) (other : rest.head? ≠ some '"') :
    Reads longBasicChars (cs.length + 1 + r)
      (List.replicate r '"' ++ (longBasicBody r cs ++ ('"' :: '"' :: '"' :: rest)))
      (List.replicate r '"' ++ cs) rest := by
  induction cs generalizing r with
  | nil =>
    rw [longBasicBody, List.nil_append, List.append_nil, replicate_quotes, replicate_quotes,
      replicate_quotes]
    intro steps seen enough
    exact reads_closing longBasicChars_takesRuns few other steps seen (by omega)
  | cons c cs ih =>
    have next : Reads longBasicChars (cs.length + 1)
        (longBasicBody 0 cs ++ '"' :: '"' :: '"' :: rest) cs rest := ih (Nat.zero_le 2)
    have enough : cs.length + 1 + 1 + r = (c :: cs).length + 1 + r := rfl
    rw [longBasicBody, ← enough]
    split
    · next quote =>
      subst quote
      split
      · next pending =>
        rw [List.cons_append, replicate_quotes, replicate_quotes, Nat.add_assoc, Nat.add_comm 1 r]
        exact ih pending
      · rw [List.cons_append, List.cons_append]
        exact (next.longBasic escaped_quote).quotes longBasicChars_takesRuns few (by simp)
    · next quote =>
      split
      · next line =>
        subst line
        exact (next.newline fun _ _ _ => rfl).quotes longBasicChars_takesRuns few (by simp)
      · next line =>
        have e := escaped_escaped quote line
        obtain ⟨x, ds, is, first, -⟩ := e.head
        rw [List.append_assoc]
        refine (next.longBasic e).quotes longBasicChars_takesRuns few ?_
        rw [is]
        simpa using first

/-! ### Literal strings -/

theorem Reads.longLiteral (reads : Reads longLiteralChars n text cs rest) (quote : c ≠ '\'')
    (printable : isPrintable c = true) :
    Reads longLiteralChars (n + 1) (c :: text) (c :: cs) rest := by
  refine reads.step fun steps seen => ?_
  obtain ⟨line, back⟩ := ne_break printable
  rw [longLiteralChars, if_neg quote, newline?_eq_none line back]
  simp only [if_pos printable]

/-- Characters that a literal string of several lines holds as they are. -/
theorem reads_longLiteral (clean : ∀ c ∈ cs, isControl c = false)
    (few : longestRun '\'' r cs ≤ 2) (other : rest.head? ≠ some '\'') :
    Reads longLiteralChars (cs.length + 1 + r)
      (List.replicate r '\'' ++ (cs ++ ('\'' :: '\'' :: '\'' :: rest)))
      (List.replicate r '\'' ++ cs) rest := by
  induction cs generalizing r with
  | nil =>
    rw [List.nil_append, List.append_nil, replicate_quotes, replicate_quotes, replicate_quotes]
    intro steps seen enough
    exact reads_closing longLiteralChars_takesRuns few other steps seen (by omega)
  | cons c cs ih =>
    have clean' : ∀ c ∈ cs, isControl c = false :=
      fun c hc => clean c (List.mem_cons_of_mem _ hc)
    rw [longestRun] at few
    by_cases quote : c = '\''
    · subst quote
      rw [if_pos rfl] at few
      rw [List.cons_append, replicate_quotes, replicate_quotes]
      have reads := ih clean' few
      intro steps seen enough
      exact reads steps seen (by simp only [List.length_cons] at enough; omega)
    rw [if_neg quote] at few
    have next : Reads longLiteralChars (cs.length + 1)
        (cs ++ '\'' :: '\'' :: '\'' :: rest) cs rest := ih clean' (r := 0) (by omega)
    have enough : cs.length + 1 + 1 + r = (c :: cs).length + 1 + r := rfl
    have pending : r ≤ 2 := by omega
    have start : (c :: (cs ++ '\'' :: '\'' :: '\'' :: rest)).head? ≠ some '\'' := by
      simpa using quote
    rw [List.cons_append, ← enough]
    by_cases line : c = '\n'
    · subst line
      exact (next.newline fun _ _ _ => rfl).quotes longLiteralChars_takesRuns pending start
    · have printable := isPrintable_of_not_isControl (clean c List.mem_cons_self) line
      exact (next.longLiteral quote printable).quotes longLiteralChars_takesRuns pending start

/-! ### The four notations -/

theorem le_longestRun (q : Char) (r : Nat) (cs : List Char) : r ≤ longestRun q r cs := by
  induction cs generalizing r with
  | nil => exact Nat.le_refl r
  | cons c cs ih =>
    rw [longestRun]
    split
    · exact Nat.le_of_succ_le (ih (r + 1))
    · exact Nat.le_max_left _ _

/-- A string without runs of a quote is one without the quote. -/
theorem not_mem_of_longestRun (none : longestRun q 0 cs = 0) : q ∉ cs := by
  induction cs with
  | nil => exact List.not_mem_nil
  | cons c cs ih =>
    rw [longestRun] at none
    by_cases quote : c = q
    · rw [if_pos quote] at none
      have := le_longestRun q (0 + 1) cs
      omega
    · rw [if_neg quote] at none
      exact List.not_mem_cons_of_ne_of_not_mem (Ne.symm quote) (ih (by omega))

end Read

/-- What a notation needs of a string to hold it. -/
def Quoting.Holds (cs : List Char) : Quoting → Prop
  | basic | longBasic => True
  | literal => cs ≠ [] ∧ ∀ c ∈ cs, isControl c = false ∧ c ≠ '\'' ∧ c ≠ '\n'
  | longLiteral => (∀ c ∈ cs, isControl c = false) ∧ longestRun '\'' 0 cs ≤ 2

/-- A string is written in a notation that holds it. -/
theorem Quoting.of_holds (cs : List Char) : (Quoting.of cs).Holds cs := by
  have clean : (!cs.any isControl) = true → ∀ c ∈ cs, isControl c = false := by
    simp
  have plain : cs ≠ [] ∨ Quoting.of cs = .basic := by
    cases cs with
    | nil => exact .inr rfl
    | cons c cs => exact .inl (List.cons_ne_nil c cs)
  rcases plain with nonempty | basic
  · rw [Quoting.of]
    split
    · trivial
    split
    · next literal =>
      simp only [Bool.and_eq_true, decide_eq_true_eq] at literal
      obtain ⟨⟨control, singles⟩, lines⟩ := literal
      refine ⟨nonempty, fun c hc => ⟨clean control c hc, ?_, ?_⟩⟩
      · rintro rfl
        exact Read.not_mem_of_longestRun singles hc
      · rintro rfl
        simp [hc] at lines
    split
    · trivial
    split
    · next long =>
      simp only [Bool.and_eq_true, decide_eq_true_eq] at long
      exact ⟨clean long.1, long.2⟩
    split
    · trivial
    · trivial
  · rw [basic]
    trivial

namespace Read

variable {cs rest : List Char}

theorem dropFirstNewline_cons {c : Char} (line : c ≠ '\n') (back : c ≠ '\r') :
    dropFirstNewline (c :: rest) = c :: rest := by
  rw [dropFirstNewline, newline?_eq_none line back]
  rfl

theorem dropFirstNewline_leadingBreak {text : List Char}
    (start : '\n' ∉ cs → ∃ x more, text = x :: more ∧ x ≠ '\n' ∧ x ≠ '\r') :
    dropFirstNewline (leadingBreak cs ++ text) = text := by
  rw [leadingBreak]
  split
  · rfl
  · next lines =>
    obtain ⟨x, more, is, line, back⟩ := start (by simpa using lines)
    rw [is]
    exact dropFirstNewline_cons line back

theorem longBasicBody_start (lines : '\n' ∉ cs) :
    ∃ x more, longBasicBody 0 cs ++ '"' :: rest = x :: more ∧ x ≠ '\n' ∧ x ≠ '\r' := by
  cases cs with
  | nil => exact ⟨'"', rest, rfl, by decide⟩
  | cons c cs =>
    have line : c ≠ '\n' := (List.ne_of_not_mem_cons lines).symm
    rw [longBasicBody]
    split
    · exact ⟨'"', _, rfl, by decide⟩
    · next quote =>
      obtain ⟨x, ds, is, -, breaks⟩ := (escaped_escaped quote line).head
      rw [is]
      exact ⟨x, _, rfl, breaks⟩

theorem literal_start (clean : ∀ c ∈ cs, isControl c = false) (lines : '\n' ∉ cs) :
    ∃ x more, cs ++ '\'' :: rest = x :: more ∧ x ≠ '\n' ∧ x ≠ '\r' := by
  cases cs with
  | nil => exact ⟨'\'', rest, rfl, by decide⟩
  | cons c cs =>
    have line : c ≠ '\n' := (List.ne_of_not_mem_cons lines).symm
    have printable := isPrintable_of_not_isControl (clean c List.mem_cons_self) line
    exact ⟨c, _, rfl, ne_break printable⟩

theorem string_basic (other : rest.head? ≠ some '"') :
    string (Quoting.basic.write cs ++ rest) = some (String.ofList cs, rest) := by
  have reads := reads_basicBody cs rest ((basicBody cs ++ '"' :: rest).length) []
    (by have := length_le_basicBody cs; simp only [List.length_append, List.length_cons]; omega)
  have single : ∀ more, basicBody cs ++ '"' :: rest ≠ '"' :: '"' :: more := by
    intro more is
    cases cs with
    | nil => exact other (by simp [(List.cons.inj is).2])
    | cons c cs =>
      obtain ⟨x, ds, is', quote, -⟩ := (escaped_basicBody c).head
      rw [basicBody_cons, is'] at is
      exact quote (List.cons.inj is).1
  rw [Quoting.write, List.cons_append, List.append_assoc, List.singleton_append,
    string.eq_3 _ single, reads]
  rfl

theorem string_literal (holds : Quoting.literal.Holds cs) :
    string (Quoting.literal.write cs ++ rest) = some (String.ofList cs, rest) := by
  obtain ⟨nonempty, clean⟩ := holds
  have plain : ∀ c ∈ cs, (isPrintable c && c ≠ '\'') = true := by
    intro c hc
    obtain ⟨control, quote, line⟩ := clean c hc
    simp [isPrintable_of_not_isControl control line, quote]
  have single : ∀ more, cs ++ '\'' :: rest ≠ '\'' :: '\'' :: more := by
    intro more is
    cases cs with
    | nil => exact nonempty rfl
    | cons c cs => exact (clean c List.mem_cons_self).2.1 (List.cons.inj is).1
  rw [Quoting.write, List.cons_append, List.append_assoc, List.singleton_append,
    string.eq_4 _ single, literalChars_plain plain]
  rfl

theorem length_le_longBasicBody (run : Nat) (cs : List Char) :
    cs.length ≤ (longBasicBody run cs).length := by
  induction cs generalizing run with
  | nil => exact Nat.zero_le _
  | cons c cs ih =>
    have rest := ih 0
    rw [longBasicBody]
    split
    · have more := ih (run + 1)
      split
      · simp only [List.length_cons]
        omega
      · simp only [List.length_cons]
        omega
    · next quote =>
      split
      · simp only [List.length_cons]
        omega
      · next line =>
        obtain ⟨x, ds, is, -⟩ := (escaped_escaped quote line).head
        simp only [is, List.length_append, List.length_cons]
        omega

theorem string_longBasic (other : rest.head? ≠ some '"') :
    string (Quoting.longBasic.write cs ++ rest) = some (String.ofList cs, rest) := by
  let body := longBasicBody 0 cs ++ '"' :: '"' :: '"' :: rest
  have text : Quoting.longBasic.write cs ++ rest =
      '"' :: '"' :: '"' :: (leadingBreak cs ++ body) := by
    simp [Quoting.write, body]
  have enough : cs.length + 1 ≤ (leadingBreak cs ++ body).length := by
    have := length_le_longBasicBody 0 cs
    simp only [body, List.length_append, List.length_cons]
    omega
  have reads : Reads longBasicChars (cs.length + 1) body cs rest :=
    reads_longBasicBody (Nat.zero_le 2) other
  rw [text, string, dropFirstNewline_leadingBreak longBasicBody_start, reads _ [] enough]
  rfl

theorem string_longLiteral (holds : Quoting.longLiteral.Holds cs)
    (other : rest.head? ≠ some '\'') :
    string (Quoting.longLiteral.write cs ++ rest) = some (String.ofList cs, rest) := by
  let body := cs ++ '\'' :: '\'' :: '\'' :: rest
  have text : Quoting.longLiteral.write cs ++ rest =
      '\'' :: '\'' :: '\'' :: (leadingBreak cs ++ body) := by
    simp [Quoting.write, body]
  have enough : cs.length + 1 ≤ (leadingBreak cs ++ body).length := by
    simp only [body, List.length_append, List.length_cons]
    omega
  have reads : Reads longLiteralChars (cs.length + 1) body cs rest :=
    reads_longLiteral holds.1 holds.2 other
  rw [text, string, dropFirstNewline_leadingBreak (literal_start holds.1), reads _ [] enough]
  rfl

/-- A string is read back from its best notation. -/
theorem string_quotedString (s : String) (double : rest.head? ≠ some '"')
    (single : rest.head? ≠ some '\'') : string (quotedString s ++ rest) = some (s, rest) := by
  have holds := Quoting.of_holds s.toList
  have same : String.ofList s.toList = s := String.ofList_toList
  rw [quotedString]
  cases best : Quoting.of s.toList with
  | basic => rw [string_basic double, same]
  | literal => rw [string_literal (best ▸ holds), same]
  | longBasic => rw [string_longBasic double, same]
  | longLiteral => rw [string_longLiteral (best ▸ holds) single, same]

end Read

end GattRpc.Toml
