import GattRpc.Toml.Parser
import GattRpc.Proofs.Toml.Integers
import GattRpc.Proofs.Toml.Strings

/-! # Reading a plain document

A plain document has sections, each a header and lines that give bare keys their values. It is
read line by line; here is what each kind of line does to the draft, and from that what a section
does. -/

namespace GattRpc.Toml.Read

variable {ks written text more rest : List Char} {k : String} {v : Toml} {d d' d'' : Draft}
  {n n' steps : Nat}

/-! ### Keys -/

/-- A key of letters, digits, underscores and dashes. -/
def Bare (k : String) : Prop := k ≠ "" ∧ k.toList.all isBareKeyChar = true

/-- A key ends where a character comes that no key has and that no blanks lead from to a dot. -/
def EndsKey (rest : List Char) : Prop :=
  (∀ c ∈ rest.head?, isBareKeyChar c = false) ∧ (skipBlanks rest).head? ≠ some '.'

theorem Bare.cons (bare : Bare k) :
    ∃ c cs, k.toList = c :: cs ∧ isBareKeyChar c = true := by
  cases is : k.toList with
  | nil => exact absurd (String.toList_eq_nil_iff.1 is) bare.1
  | cons c cs => exact ⟨c, cs, rfl, List.all_eq_true.1 bare.2 c (by simp [is])⟩

/-- What is no character of a key is none that a key starts with. -/
theorem ne_of_isBareKeyChar {c x : Char} (key : isBareKeyChar c = true)
    (other : isBareKeyChar x = false) : c ≠ x := by
  rintro rfl
  exact absurd key (by simp [other])

theorem simpleKey_bare (bare : Bare k) (ends : ∀ c ∈ rest.head?, isBareKeyChar c = false) :
    simpleKey (k.toList ++ rest) = some (k, rest) := by
  have stop : rest.takeWhile isBareKeyChar = [] ∧ rest.dropWhile isBareKeyChar = rest := by
    cases rest with
    | nil => exact ⟨rfl, rfl⟩
    | cons c rest =>
      have other : ¬ isBareKeyChar c = true := by simp [ends c rfl]
      exact ⟨List.takeWhile_cons_of_neg other, List.dropWhile_cons_of_neg other⟩
  obtain ⟨c, cs, is, key⟩ := bare.cons
  have plain (x : Char) (other : isBareKeyChar x = false) (more : List Char) :
      k.toList ++ rest ≠ x :: more := by
    rw [is]
    exact fun same => ne_of_isBareKeyChar key other (List.cons.inj same).1
  rw [simpleKey.eq_3 _ (plain '"' (by decide)) (plain '\'' (by decide))]
  have all := List.all_eq_true.1 bare.2
  simp only [List.takeWhile_append_of_pos all, List.dropWhile_append_of_pos all, stop.1, stop.2,
    List.append_nil, String.ofList_toList]
  rw [is]
  rfl

theorem skipBlanks_cons {c : Char} (plain : isBlank c = false) :
    skipBlanks (c :: rest) = c :: rest := by
  rw [skipBlanks, List.dropWhile_cons_of_neg (by simp [plain])]

theorem skipBlanks_bare (bare : Bare k) :
    skipBlanks (k.toList ++ rest) = k.toList ++ rest := by
  obtain ⟨c, cs, is, key⟩ := bare.cons
  have plain : isBlank c = false := by
    simp [isBlank, ne_of_isBareKeyChar key (x := ' ') (by decide),
      ne_of_isBareKeyChar key (x := '\t') (by decide)]
  rw [is, List.cons_append, skipBlanks_cons plain]

theorem endsKey_cons {c : Char} (other : isBareKeyChar c = false) (plain : isBlank c = false)
    (dot : c ≠ '.') : EndsKey (c :: rest) := by
  refine ⟨fun x first => ?_, ?_⟩
  · rwa [← Option.mem_some.1 first]
  · rw [skipBlanks_cons plain]
    simpa using dot

theorem key_bare (bare : Bare k) (ends : EndsKey rest) :
    key (k.toList ++ rest) = some ([k], skipBlanks rest) := by
  rw [key, nestingLimit, keyParts, skipBlanks_bare bare, simpleKey_bare bare ends.1]
  simp only [Option.bind_eq_bind, Option.bind_some]
  split
  · next dot => exact absurd (by rw [dot]; rfl) ends.2
  · rfl

/-! ### Lines -/

/-- A text is some lines that turn one draft into another: it is read so, whatever follows, in one
step for each line. -/
structure Leads (d : Draft) (n : Nat) (text : List Char) (d' : Draft) : Prop where
  lines : n ≤ text.length
  reads : ∀ steps rest, readLines (steps + n) d (text ++ rest) = readLines steps d' rest

theorem Leads.refl : Leads d 0 [] d := ⟨Nat.le_refl 0, fun _ _ => rfl⟩

theorem Leads.trans (first : Leads d n text d') (second : Leads d' n' more d'') :
    Leads d (n + n') (text ++ more) d'' := by
  refine ⟨?_, fun steps rest => ?_⟩
  · rw [List.length_append]
    exact Nat.add_le_add first.lines second.lines
  · rw [List.append_assoc, Nat.add_comm n n', ← Nat.add_assoc, first.reads, second.reads]

theorem leads_blank : Leads d 1 ['\n'] d := ⟨Nat.le_refl 1, fun _ _ => rfl⟩

theorem readLines_header (steps : Nat) :
    readLines (steps + 1) d ('[' :: rest) =
      (header d rest).bind fun (d, rest) => readLines steps d rest := rfl

theorem readLines_pair (bare : Bare k) (steps : Nat) :
    readLines (steps + 1) d (k.toList ++ rest) =
      (pair d (k.toList ++ rest)).bind fun (d, rest) => readLines steps d rest := by
  have start : skipBlanks (k.toList ++ rest) = k.toList ++ rest := skipBlanks_bare bare
  obtain ⟨c, cs, is, key⟩ := bare.cons
  have other {x : Char} (h : isBareKeyChar x = false) : c ≠ x := ne_of_isBareKeyChar key h
  rw [readLines.eq_5 _ _ c (cs ++ rest) steps (other (by decide)) (other (by decide))
    (by rw [start, is, List.cons_append]), newline?_eq_none (other (by decide)) (other (by decide)),
    is, List.cons_append]
  rfl

/-- A line between brackets starts a table. -/
theorem leads_header (bare : Bare k) (starts : d.startTable [k] = some d') :
    Leads d 1 ('[' :: (k.toList ++ [']', '\n'])) d' := by
  refine ⟨Nat.succ_le_succ (Nat.zero_le _), fun steps rest => ?_⟩
  have is : '[' :: (k.toList ++ [']', '\n']) ++ rest =
      '[' :: (k.toList ++ ']' :: '\n' :: rest) := by
    simp
  have single : ∀ more, k.toList ++ ']' :: '\n' :: rest ≠ '[' :: more := by
    obtain ⟨c, cs, is, key⟩ := bare.cons
    rw [is]
    exact fun _ same => ne_of_isBareKeyChar key (by decide) (List.cons.inj same).1
  have ends : EndsKey (']' :: '\n' :: rest) := endsKey_cons (by decide) (by decide) (by decide)
  have reads : header d (k.toList ++ ']' :: '\n' :: rest) = some (d', rest) := by
    rw [header.eq_2 _ _ single, key_bare bare ends]
    show (d.startTable [k]).bind _ = _
    rw [starts]
    rfl
  rw [is, readLines_header, reads]
  rfl

/-- The characters of a value, at the end of a line after an equals sign and a blank. -/
def Holds (written : List Char) (v : Toml) : Prop :=
  ∀ rest, value nestingLimit (skipBlanks (' ' :: (written ++ '\n' :: rest))) =
    some (v, '\n' :: rest)

theorem holds_scalar {c : Char} {cs : List Char} (is : written = c :: cs)
    (first : isBlank c = false ∧ c ≠ '[' ∧ c ≠ '{')
    (reads : ∀ rest, scalar (written ++ '\n' :: rest) = some (v, '\n' :: rest)) :
    Holds written v := by
  intro rest
  obtain ⟨plain, array, table⟩ := first
  have start : skipBlanks (' ' :: (written ++ '\n' :: rest)) = written ++ '\n' :: rest := by
    rw [skipBlanks, List.dropWhile_cons_of_pos (by decide), is]
    exact skipBlanks_cons plain
  have other {x : Char} (ne : c ≠ x) (tail : List Char) :
      written ++ '\n' :: rest ≠ x :: tail := by
    rw [is]
    exact fun same => ne (List.cons.inj same).1
  rw [start, value.eq_5 _ _ (fun _ h _ => other array _ h) (fun _ h _ => other table _ h)
    (fun _ _ h _ => other array _ h) (fun _ _ h _ => other table _ h), reads]

theorem quotedString_cons (s : String) :
    ∃ c cs, quotedString s = c :: cs ∧ (c = '"' ∨ c = '\'') := by
  rw [quotedString]
  cases Quoting.of s.toList with
  | basic => exact ⟨'"', _, rfl, .inl rfl⟩
  | literal => exact ⟨'\'', _, rfl, .inr rfl⟩
  | longBasic => exact ⟨'"', _, rfl, .inl rfl⟩
  | longLiteral => exact ⟨'\'', _, rfl, .inr rfl⟩

/-- A quoted string is a value. -/
theorem holds_string (s : String) : Holds (quotedString s) (.string s) := by
  obtain ⟨c, cs, is, quote⟩ := quotedString_cons s
  refine holds_scalar is ?_ fun rest => ?_
  · rcases quote with rfl | rfl
    · decide
    · decide
  · have reads : string (quotedString s ++ '\n' :: rest) = some (s, '\n' :: rest) :=
      string_quotedString s (fun same => absurd (Option.some.inj same) (by decide))
        (fun same => absurd (Option.some.inj same) (by decide))
    rw [is, List.cons_append] at reads ⊢
    rw [scalar, if_pos quote, reads]
    rfl

/-- So are the digits of a number that fits. -/
theorem holds_integer {i : Nat} (fits : i < 0x8000000000000000) :
    Holds (Decimal.digits i) (.integer i) := by
  obtain ⟨c, cs, is, -⟩ := digits_cons i
  have digit : isDigit c = true := isDigit_digits i c (by simp [is])
  refine holds_scalar is ⟨?_, ne_of_isDigit digit (by decide), ne_of_isDigit digit (by decide)⟩
    fun rest => scalar_digits fits
  simp [isBlank, ne_of_isDigit digit (x := ' ') (by decide),
    ne_of_isDigit digit (x := '\t') (by decide)]

/-- A line with a key and a value adds them to the table. -/
theorem leads_pair (bare : Bare k) (holds : Holds written v) (adds : d.add [k] v = some d') :
    Leads d 1 (k.toList ++ [' ', '=', ' '] ++ written ++ ['\n']) d' := by
  refine ⟨by rw [List.length_append]; exact Nat.le_add_left 1 _, fun steps rest => ?_⟩
  have is : k.toList ++ [' ', '=', ' '] ++ written ++ ['\n'] ++ rest =
      k.toList ++ ' ' :: '=' :: ' ' :: (written ++ '\n' :: rest) := by
    simp
  have ends : EndsKey (' ' :: '=' :: ' ' :: (written ++ '\n' :: rest)) := by
    refine ⟨fun c first => ?_, ?_⟩
    · rw [← Option.mem_some.1 first]
      decide
    · rw [skipBlanks, List.dropWhile_cons_of_pos (by decide),
        List.dropWhile_cons_of_neg (by decide)]
      exact fun dot => absurd (Option.some.inj dot) (by decide)
  have reads : pair d (k.toList ++ ' ' :: '=' :: ' ' :: (written ++ '\n' :: rest)) =
      some (d', rest) := by
    rw [pair, key_bare bare ends]
    show (value nestingLimit (skipBlanks (' ' :: (written ++ '\n' :: rest)))).bind _ = _
    rw [holds]
    show (d.add [k] v).bind _ = _
    rw [adds]
    rfl
  rw [is, readLines_pair bare, reads]
  rfl

/-! ### Sections -/

/-- A line of a section: a key, the characters of its value and the value. -/
structure Line where
  key : String
  written : List Char
  value : Toml

namespace Line

/-- The characters of a line. -/
def chars (l : Line) : List Char := l.key.toList ++ [' ', '=', ' '] ++ l.written ++ ['\n']

def member (l : Line) : String × Toml := (l.key, l.value)

/-- A line that is read as its key and its value. -/
structure Good (l : Line) : Prop where
  bare : Bare l.key
  holds : Holds l.written l.value

end Line

variable {ms : List (String × Toml)} {origin : Origin}

theorem lookup_eq_none (new : k ∉ ms.map Prod.fst) : ms.lookup k = none := by
  refine List.lookup_eq_none_iff.2 fun m hm => ?_
  have ne : k ≠ m.1 := fun same => new (same ▸ List.mem_map_of_mem hm)
  simpa using ne

theorem add_eq_some (is : d.current = .table .header ms) (new : k ∉ ms.map Prod.fst) :
    d.add [k] v = some { d with current := .table .header (ms ++ [(k, v)]) } := by
  have absent := lookup_eq_none new
  simp [Draft.add, splitKey, assign, alter, addMember, is, absent]

/-- Lines with new keys are added one after the other. -/
theorem leads_lines {ls : List Line} (good : ∀ l ∈ ls, l.Good)
    (is : d.current = .table .header ms) (new : (ms.map Prod.fst ++ ls.map Line.key).Nodup) :
    Leads d ls.length (ls.flatMap Line.chars)
      { d with current := .table .header (ms ++ ls.map Line.member) } := by
  induction ls generalizing d ms with
  | nil =>
    rw [List.map_nil, List.append_nil, ← is]
    exact Leads.refl
  | cons l ls ih =>
    obtain ⟨bare, holds⟩ := good l List.mem_cons_self
    have first : l.key ∉ ms.map Prod.fst := fun old =>
      (List.nodup_append.1 new).2.2 l.key old l.key (by simp) rfl
    have line : Leads d 1 l.chars
        { d with current := .table .header (ms ++ [(l.key, l.value)]) } :=
      leads_pair bare holds (add_eq_some is first)
    have others := ih (d := { d with current := .table .header (ms ++ [(l.key, l.value)]) })
      (fun l hl => good l (List.mem_cons_of_mem _ hl)) rfl (by simpa using new)
    have both := line.trans others
    rw [List.append_assoc] at both
    rw [List.flatMap_cons, List.length_cons, Nat.add_comm]
    exact both

/-- A header finishes the table before it and starts an empty one. -/
theorem startTable_eq_some (finished : d.finish = some (.table origin ms))
    (new : k ∉ ms.map Prod.fst) : d.startTable [k] =
      some { root := .table origin ms, current := emptyTable .header, path := [k] } := by
  have absent := lookup_eq_none new
  simp [Draft.startTable, finished, splitKey, alter, Draft.descend?, Draft.claim, absent]

/-- The draft after a section: what came before it and its own lines. -/
def afterSection (before : List (String × Toml)) (k : String) (ls : List Line) : Draft where
  root := .table .header before
  current := .table .header (ls.map Line.member)
  path := [k]

/-- A section with its header. -/
theorem leads_section {ls : List Line} (bare : Bare k) (good : ∀ l ∈ ls, l.Good)
    (finished : d.finish = some (.table .header ms)) (new : k ∉ ms.map Prod.fst)
    (nodup : (ls.map Line.key).Nodup) :
    Leads d (1 + ls.length) ('[' :: (k.toList ++ [']', '\n']) ++ ls.flatMap Line.chars)
      (afterSection ms k ls) := by
  have header := leads_header bare (startTable_eq_some finished new)
  have empty : (([] : List (String × Toml)).map Prod.fst ++ ls.map Line.key).Nodup := nodup
  exact header.trans (leads_lines good rfl empty)

/-- The section that was read last becomes a member of the document. -/
theorem finish_afterSection (ls : List Line) (new : k ∉ ms.map Prod.fst) :
    (afterSection ms k ls).finish =
      some (.table .header (ms ++ [(k, .table .header (ls.map Line.member))])) := by
  have absent := lookup_eq_none new
  simp [Draft.finish, afterSection, splitKey, alter, Draft.place, absent]

/-- A document of such lines is read to its end. -/
theorem parse_of_leads {document : String} (leads : Leads {} n document.toList d)
    (start : document.toList.head? ≠ some '\uFEFF') : Toml.parse document = d.finish := by
  have plain : ∀ more, document.toList ≠ '\uFEFF' :: more := by
    intro more is
    rw [is] at start
    exact start rfl
  have all : readLines document.toList.length {} document.toList = some d := by
    obtain ⟨steps, is⟩ := Nat.exists_eq_add_of_le' leads.lines
    have reads := leads.reads steps []
    rw [List.append_nil, ← is] at reads
    rw [reads, readLines.eq_1 _ _ _ rfl]
  rw [Toml.parse]
  split
  · next more is => exact absurd is (plain more)
  · rw [all]
    rfl

end GattRpc.Toml.Read
