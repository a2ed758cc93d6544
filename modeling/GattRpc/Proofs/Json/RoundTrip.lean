import GattRpc.Json.Parser
import GattRpc.Proofs.Json.Tokens

/-! # Reading a printed value

The compact text of a value reads back as that value, whatever follows it in a longer text, unless
its containers are nested more deeply than the reader goes, which then says so (`parse_toBytes`).
This holds of values whose numbers are integers; the members of an object have to be in the order in
which objects keep them. -/

namespace GattRpc.Json

mutual

/-- All numbers are integers, and all members are in order. -/
def Regular : Json → Prop
  | .number (.float _ _) => False
  | .array items => RegularItems items
  | .object members => (members.map Prod.fst).Pairwise (· < ·) ∧ RegularMembers members
  | .null | .boolean _ | .number (.integer _ _) | .string _ => True

def RegularItems : List Json → Prop
  | [] => True
  | x :: xs => x.Regular ∧ RegularItems xs

def RegularMembers : List (String × Json) → Prop
  | [] => True
  | (_, v) :: ms => v.Regular ∧ RegularMembers ms

end

mutual

/-- How many containers are nested in a value, itself included. -/
def depth : Json → Nat
  | .array items => depthOfItems items + 1
  | .object members => depthOfMembers members + 1
  | .null | .boolean _ | .number _ | .string _ => 0

def depthOfItems : List Json → Nat
  | [] => 0
  | x :: xs => max x.depth (depthOfItems xs)

def depthOfMembers : List (String × Json) → Nat
  | [] => 0
  | (_, v) :: ms => max v.depth (depthOfMembers ms)

end

/-- The next member in order is bound at the end. -/
theorem insertMember_ordered {k : String} {v : Json} {ms more : List (String × Json)}
    (ordered : ((ms ++ (k, v) :: more).map Prod.fst).Pairwise (· < ·)) :
    insertMember k v ms = ms ++ [(k, v)] := by
  induction ms with
  | nil => rfl
  | cons m ms ih =>
    rw [List.cons_append, List.map_cons] at ordered
    obtain ⟨first, ordered⟩ := List.pairwise_cons.1 ordered
    have lt : m.1 < k := first k (List.mem_map_of_mem (a := (k, v)) (by simp))
    have ne : k ≠ m.1 := fun same => String.lt_irrefl k (same ▸ lt)
    rw [insertMember, if_neg (String.lt_asymm lt), if_neg ne, ih ordered, List.cons_append]

namespace Read

variable {α β : Type} {b : UInt8} {bs rest mid : List UInt8} {d steps : Nat}

/-! ### The first byte -/

/-- A byte that a value may begin with. -/
def Starts (b : UInt8) : Prop := 0x20 < b ∧ b ≠ ']'.toUInt8

instance (b : UInt8) : Decidable (Starts b) :=
  inferInstanceAs (Decidable (0x20 < b ∧ b ≠ ']'.toUInt8))

theorem Starts.not_isBlank (starts : Starts b) : isBlank b = false := by
  have large := UInt8.lt_iff_toNat_lt.1 starts.1
  have other {c : Char} (low : c.toUInt8.toNat ≤ 0x20) : b ≠ c.toUInt8 := by
    rintro rfl
    exact absurd large (Nat.not_lt.2 low)
  simp [isBlank, other (c := ' ') (by decide), other (c := '\n') (by decide),
    other (c := '\t') (by decide), other (c := '\r') (by decide)]

theorem Starts.skipBlanks (starts : Starts b) : skipBlanks (b :: bs) = b :: bs :=
  List.dropWhile_cons_of_neg (by simp [starts.not_isBlank])

theorem Starts.of_isDigit (digit : isDigit b = true) : Starts b := by
  simp only [isDigit, Bool.and_eq_true, decide_eq_true_eq] at digit
  have least : 0x30 ≤ b.toNat := UInt8.le_iff_toNat_le.1 digit.1
  have most : b.toNat ≤ 0x39 := UInt8.le_iff_toNat_le.1 digit.2
  refine ⟨UInt8.lt_iff_toNat_lt.2 (Nat.lt_of_lt_of_le (by decide) least), ?_⟩
  rintro rfl
  exact absurd most (by decide)

theorem bytes_cons_starts {c : Char} {cs : List Char} (ascii : c.toNat < 0x80)
    (starts : Starts c.toUInt8) : ∃ b bs, Utf8.bytes (c :: cs) = b :: bs ∧ Starts b :=
  ⟨_, _, Utf8.bytes_cons_ascii ascii, starts⟩

theorem chars_starts (v : Json) (regular : v.Regular) :
    ∃ b bs, Utf8.bytes v.chars = b :: bs ∧ Starts b := by
  cases v with
  | null | string => exact bytes_cons_starts (by decide) (by decide)
  | boolean b => cases b <;> exact bytes_cons_starts (by decide) (by decide)
  | array items => cases items <;> exact bytes_cons_starts (by decide) (by decide)
  | object members => cases members <;> exact bytes_cons_starts (by decide) (by decide)
  | number n =>
    cases n with
    | float x finite => exact regular.elim
    | integer i fits =>
      rw [chars, Number.chars, Decimal.signed]
      split
      · exact bytes_cons_starts (by decide) (by decide)
      · obtain ⟨b, ds, is, -⟩ := digits_head i.natAbs
        refine ⟨b, ds, is, .of_isDigit ((bytes_digits i.natAbs).1 b ?_)⟩
        rw [is]
        exact List.mem_cons_self

/-! ### Values that are not containers -/

theorem value_digit (digit : isDigit b = true) : value d (b :: bs) = (do
    let (n, rest) ← number false (b :: bs)
    .ok (.number n, rest)) := by
  have other {c : UInt8} (no : isDigit c = false) : b ≠ c := by
    rintro rfl
    rw [digit] at no
    cases no
  rw [value, (Starts.of_isDigit digit).skipBlanks]
  simp only [if_neg (other (c := 'n'.toUInt8) rfl), if_neg (other (c := 't'.toUInt8) rfl),
    if_neg (other (c := 'f'.toUInt8) rfl), if_neg (other (c := '-'.toUInt8) rfl), digit, if_true]

theorem value_minus : value d ('-'.toUInt8 :: bs) = (do
    let (n, rest) ← number true bs
    .ok (.number n, rest)) := by
  rw [value]
  rfl

theorem value_quote : value d ('"'.toUInt8 :: bs) = (do
    let (s, rest) ← string bs
    .ok (.string s, rest)) := by
  rw [value]
  rfl

theorem integerNumber_eq (i : Int) (fits : -0x8000000000000000 ≤ i ∧ i < 0x10000000000000000) :
    integerNumber (decide (i < 0)) i.natAbs rest = .ok (.integer i fits, rest) := by
  by_cases negative : i < 0
  · have is : -(i.natAbs : Int) = i := by omega
    rw [integerNumber, if_pos (by simpa using negative), dif_pos (by omega)]
    simp only [is]
  · have is : (i.natAbs : Int) = i := by omega
    rw [integerNumber, if_neg (by simpa using negative), dif_pos (by omega)]
    simp only [is]

theorem value_integer (i : Int) (fits : -0x8000000000000000 ≤ i ∧ i < 0x10000000000000000)
    (stops : Stops rest) :
    value d (Utf8.bytes (Decimal.signed i) ++ rest) = .ok (.number (.integer i fits), rest) := by
  have number : number (decide (i < 0)) (Utf8.bytes (Decimal.digits i.natAbs) ++ rest) =
      .ok (.integer i fits, rest) := by
    rw [number_digits (by rw [significandLimit]; omega) stops, integerNumber_eq i fits]
  rw [Decimal.signed]
  split
  · next negative =>
    rw [decide_eq_true negative] at number
    rw [Utf8.bytes_cons_ascii (by decide), List.cons_append, value_minus, number]
    rfl
  · next positive =>
    rw [decide_eq_false positive] at number
    obtain ⟨b, ds, is, -⟩ := digits_head i.natAbs
    have digit : isDigit b = true :=
      (bytes_digits i.natAbs).1 b (by rw [is]; exact List.mem_cons_self)
    rw [is, List.cons_append] at number ⊢
    rw [value_digit digit, number]
    rfl

theorem value_quoted (s : String) :
    value d (Utf8.bytes (quoted s) ++ rest) = .ok (.string s, rest) := by
  rw [quoted, Utf8.bytes_cons_ascii (by decide), List.cons_append, value_quote, string_quoted]
  rfl

/-! ### Containers -/

/-- A reading gives a value, provided that it fits; else the recursion limit is exceeded. -/
structure Yields (fits : Prop) (x : α) (rest : List UInt8)
    (r : Except Fault (α × List UInt8)) : Prop where
  reads : fits → r = .ok (x, rest)
  exceeds : ¬ fits → ∃ unread, r = .error ⟨.recursionLimit, unread⟩

namespace Yields

variable {fits fits' : Prop} {x : α} {y : β} {r : Except Fault (α × List UInt8)}
  {k : α × List UInt8 → Except Fault (β × List UInt8)}

theorem ok : Yields True x rest (.ok (x, rest)) := ⟨fun _ => rfl, fun h => (h trivial).elim⟩

theorem bind (first : Yields fits x mid r) (next : Yields fits' y rest (k (x, mid))) :
    Yields (fits ∧ fits') y rest (r >>= k) := by
  constructor
  · rintro ⟨h, h'⟩
    rw [first.reads h]
    exact next.reads h'
  · intro h
    by_cases fit : fits
    · rw [first.reads fit]
      exact next.exceeds fun h' => h ⟨fit, h'⟩
    · obtain ⟨unread, failed⟩ := first.exceeds fit
      exact ⟨unread, by rw [failed]; rfl⟩

theorem congr (y : Yields fits x rest r) (same : fits' ↔ fits) : Yields fits' x rest r :=
  ⟨fun h => y.reads (same.1 h), fun h => y.exceeds fun h' => h (same.2 h')⟩

end Yields

/-- Reads an item of a list. -/
def item (d : Nat) (items : List Json) : Reader (List Json) := fun bs => do
  let (v, rest) ← value d bs
  .ok (v :: items, rest)

/-- Reads a member of an object, after its key. -/
def member (d : Nat) (members : List (String × Json)) (k : String) :
    Reader (List (String × Json)) := fun bs => do
  let (v, rest) ← value d bs
  .ok (insertMember k v members, rest)

theorem value_list : value (d + 1) ('['.toUInt8 :: bs) = (do
    let (items, rest) ← foldItems (item d) bs.length true [] bs
    .ok (.array items.reverse, rest)) := by
  rw [value]
  rfl

theorem value_object : value (d + 1) ('{'.toUInt8 :: bs) = (do
    let (members, rest) ← foldMembers (member d) bs.length true [] bs
    .ok (.object members, rest)) := by
  rw [value]
  rfl

theorem value_list_zero : ∃ unread,
    value 0 ('['.toUInt8 :: bs) = .error ⟨.recursionLimit, unread⟩ := by
  rw [value]
  exact ⟨_, rfl⟩

theorem value_object_zero : ∃ unread,
    value 0 ('{'.toUInt8 :: bs) = .error ⟨.recursionLimit, unread⟩ := by
  rw [value]
  exact ⟨_, rfl⟩

section Loops

variable {σ : Type} {acc : σ} {k : String}

theorem foldItems_first {item : σ → Reader σ} (starts : Starts b) :
    foldItems item (steps + 1) true acc (b :: bs) =
      (item acc (b :: bs) >>= fun r => foldItems item steps false r.1 r.2) := by
  rw [foldItems, starts.skipBlanks]
  simp only [if_neg starts.2, if_true]
  rfl

theorem foldItems_next {item : σ → Reader σ} (starts : Starts b) :
    foldItems item (steps + 1) false acc (','.toUInt8 :: b :: bs) =
      (item acc (b :: bs) >>= fun r => foldItems item steps false r.1 r.2) := by
  have comma : Starts ','.toUInt8 := by decide
  have start : itemAfterComma (b :: bs) = .ok (b :: bs) := by
    rw [itemAfterComma, starts.skipBlanks]
    simp only [if_neg starts.2]
  rw [foldItems, comma.skipBlanks]
  simp only [if_neg comma.2, if_true, Bool.false_eq_true, if_false, start]
  rfl

theorem foldItems_end {item : σ → Reader σ} {first : Bool} :
    foldItems item (steps + 1) first acc (']'.toUInt8 :: rest) = .ok (acc, rest) := by
  rw [foldItems]
  rfl

theorem key_quoted (k : String) (bs : List UInt8) :
    key (Utf8.bytes (quoted k) ++ ':'.toUInt8 :: bs) = .ok (k, bs) := by
  rw [quoted, Utf8.bytes_cons_ascii (by decide), List.cons_append, key, if_pos rfl, string_quoted]
  rfl

theorem foldMembers_first {member : σ → String → Reader σ} :
    foldMembers member (steps + 1) true acc (Utf8.bytes (quoted k) ++ ':'.toUInt8 :: bs) =
      (member acc k bs >>= fun r => foldMembers member steps false r.1 r.2) := by
  have key := key_quoted k bs
  rw [quoted, Utf8.bytes_cons_ascii (by decide), List.cons_append] at key ⊢
  have quote : Starts '"'.toUInt8 := by decide
  rw [foldMembers, quote.skipBlanks]
  simp only [if_neg (show '"'.toUInt8 ≠ '}'.toUInt8 by decide), if_true, bind, Except.bind, key]

theorem foldMembers_next {member : σ → String → Reader σ} :
    foldMembers member (steps + 1) false acc
        (','.toUInt8 :: (Utf8.bytes (quoted k) ++ ':'.toUInt8 :: bs)) =
      (member acc k bs >>= fun r => foldMembers member steps false r.1 r.2) := by
  have key := key_quoted k bs
  rw [quoted, Utf8.bytes_cons_ascii (by decide), List.cons_append] at key ⊢
  have quote : Starts '"'.toUInt8 := by decide
  have comma : Starts ','.toUInt8 := by decide
  rw [foldMembers, comma.skipBlanks]
  simp only [if_neg (show ','.toUInt8 ≠ '}'.toUInt8 by decide), Bool.false_eq_true, if_false,
    if_true, keyAfterComma, quote.skipBlanks, if_neg (show '"'.toUInt8 ≠ '}'.toUInt8 by decide),
    bind, Except.bind, key]

theorem foldMembers_end {member : σ → String → Reader σ} {first : Bool} :
    foldMembers member (steps + 1) first acc ('}'.toUInt8 :: rest) = .ok (acc, rest) := by
  rw [foldMembers]
  rfl

end Loops

theorem item_yields {v : Json} {items : List Json} {fits : Prop}
    (y : Yields fits v rest (value d bs)) : Yields fits (v :: items) rest (item d items bs) :=
  (y.bind (k := fun r => .ok (r.1 :: items, r.2)) .ok).congr (and_iff_left trivial).symm

theorem member_yields {v : Json} {members : List (String × Json)} {k : String} {fits : Prop}
    (y : Yields fits v rest (value d bs)) :
    Yields fits (insertMember k v members) rest (member d members k bs) :=
  (y.bind (k := fun r => .ok (insertMember k r.1 members, r.2)) .ok).congr
    (and_iff_left trivial).symm

/-- A list takes one container off those that may be opened. -/
theorem list_yields {n : Nat} {items : List Json}
    (y : ∀ d, Yields (n ≤ d) items.reverse rest (foldItems (item d) bs.length true [] bs)) :
    Yields (n + 1 ≤ d) (.array items) rest (value d ('['.toUInt8 :: bs)) := by
  cases d with
  | zero => exact ⟨fun fits => (Nat.not_succ_le_zero n fits).elim, fun _ => value_list_zero⟩
  | succ d =>
    have y := (y d).bind (k := fun r => .ok (Json.array r.1.reverse, r.2)) .ok
    rw [List.reverse_reverse] at y
    rw [value_list]
    exact y.congr (by rw [and_iff_left trivial, Nat.add_le_add_iff_right])

theorem object_yields {n : Nat} {members : List (String × Json)}
    (y : ∀ d, Yields (n ≤ d) members rest (foldMembers (member d) bs.length true [] bs)) :
    Yields (n + 1 ≤ d) (.object members) rest (value d ('{'.toUInt8 :: bs)) := by
  cases d with
  | zero => exact ⟨fun fits => (Nat.not_succ_le_zero n fits).elim, fun _ => value_object_zero⟩
  | succ d =>
    rw [value_object]
    exact ((y d).bind (k := fun r => .ok (Json.object r.1, r.2)) .ok).congr
      (by rw [and_iff_left trivial, Nat.add_le_add_iff_right])

theorem stops_items (xs : List Json) (rest : List UInt8) :
    Stops (Utf8.bytes (charsOfItems xs) ++ rest) := by
  cases xs with
  | nil => exact fun b hb => .inr (.inl (Option.some.inj hb).symm)
  | cons x xs =>
    rw [charsOfItems, Utf8.bytes_cons_ascii (by decide)]
    exact fun b hb => .inl (Option.some.inj hb).symm

theorem stops_members (ms : List (String × Json)) (rest : List UInt8) :
    Stops (Utf8.bytes (charsOfMembers ms) ++ rest) := by
  cases ms with
  | nil => exact fun b hb => .inr (.inr (Option.some.inj hb).symm)
  | cons m ms =>
    rw [charsOfMembers, Utf8.bytes_cons_ascii (by decide)]
    exact fun b hb => .inl (Option.some.inj hb).symm

mutual

theorem value_yields : (v : Json) → v.Regular → ∀ (d : Nat) {rest : List UInt8}, Stops rest →
    Yields (v.depth ≤ d) v rest (value d (Utf8.bytes v.chars ++ rest))
  | .null, _, d, rest, _ => by
    rw [value]
    exact Yields.ok.congr (iff_true_intro (Nat.zero_le d))
  | .boolean true, _, d, rest, _ => by
    rw [value]
    exact Yields.ok.congr (iff_true_intro (Nat.zero_le d))
  | .boolean false, _, d, rest, _ => by
    rw [value]
    exact Yields.ok.congr (iff_true_intro (Nat.zero_le d))
  | .number (.integer i fits), _, d, rest, stops => by
    rw [chars, Number.chars, value_integer i fits stops]
    exact Yields.ok.congr (iff_true_intro (Nat.zero_le d))
  | .string s, _, d, rest, _ => by
    rw [chars, value_quoted]
    exact Yields.ok.congr (iff_true_intro (Nat.zero_le d))
  | .array [], _, d, rest, _ => by
    rw [chars, Utf8.bytes_cons_ascii (by decide), List.cons_append]
    refine list_yields fun d => ?_
    exact foldItems_end ▸ Yields.ok.congr (iff_true_intro (Nat.zero_le d))
  | .array (x :: xs), regular, d, rest, _ => by
    obtain ⟨b, bs, is, starts⟩ := chars_starts x regular.1
    rw [chars, Utf8.bytes_cons_ascii (by decide), Utf8.bytes_append, List.cons_append,
      List.append_assoc]
    refine list_yields fun d => ?_
    -- No comma stands before the first item, so it is read apart from the loop over the others.
    have first := value_yields x regular.1 d (stops_items xs rest)
    have enough : (Utf8.bytes (charsOfItems xs)).length ≤
        (bs ++ (Utf8.bytes (charsOfItems xs) ++ rest)).length := by
      simp only [List.length_append]
      omega
    have others := items_yield xs regular.2 d [x] rest enough
    rw [is, List.cons_append] at first ⊢
    rw [List.length_cons, foldItems_first starts, List.reverse_cons]
    exact ((item_yields first).bind others).congr Nat.max_le
  | .object [], _, d, rest, _ => by
    rw [chars, Utf8.bytes_cons_ascii (by decide), List.cons_append]
    refine object_yields fun d => ?_
    exact foldMembers_end ▸ Yields.ok.congr (iff_true_intro (Nat.zero_le d))
  | .object ((k, v) :: ms), regular, d, rest, _ => by
    rw [chars, Utf8.bytes_cons_ascii (by decide), Utf8.bytes_append,
      Utf8.bytes_cons_ascii (c := ':') (by decide), Utf8.bytes_append, List.cons_append,
      List.append_assoc, List.cons_append, List.append_assoc]
    refine object_yields fun d => ?_
    have first := value_yields v regular.2.1 d (stops_members ms rest)
    obtain ⟨left, length⟩ : ∃ left, (Utf8.bytes (quoted k) ++ ':'.toUInt8 ::
        (Utf8.bytes v.chars ++ (Utf8.bytes (charsOfMembers ms) ++ rest))).length =
          (Utf8.bytes (charsOfMembers ms)).length + left + 1 :=
      ⟨(Utf8.bytes (quoted k)).length + (Utf8.bytes v.chars).length + rest.length, by
        simp only [List.length_append, List.length_cons]; omega⟩
    have others := members_yield ms regular.2.2 d [(k, v)] rest regular.1
      (Nat.le_add_right _ left)
    rw [length, foldMembers_first]
    exact ((member_yields first).bind others).congr Nat.max_le

/-- The rest of a list is read into what was read before it. -/
theorem items_yield : (xs : List Json) → RegularItems xs → ∀ (d : Nat) {steps : Nat}
    (acc : List Json) (rest : List UInt8), (Utf8.bytes (charsOfItems xs)).length ≤ steps →
    Yields (depthOfItems xs ≤ d) (xs.reverse ++ acc) rest
      (foldItems (item d) steps false acc (Utf8.bytes (charsOfItems xs) ++ rest))
  | [], _, d, steps, acc, rest, enough => by
    obtain ⟨left, rfl⟩ := Nat.exists_eq_add_of_le' enough
    rw [charsOfItems, Utf8.bytes_cons_ascii (by decide)]
    exact foldItems_end ▸ Yields.ok.congr (iff_true_intro (Nat.zero_le d))
  | x :: xs, regular, d, steps, acc, rest, enough => by
    obtain ⟨b, bs, is, starts⟩ := chars_starts x regular.1
    have first := value_yields x regular.1 d (stops_items xs rest)
    rw [is, List.cons_append] at first
    rw [charsOfItems, Utf8.bytes_cons_ascii (by decide), Utf8.bytes_append, is] at enough ⊢
    simp only [List.length_cons, List.length_append] at enough
    obtain ⟨left, rfl⟩ : ∃ left, steps = left + 1 := ⟨steps - 1, by omega⟩
    have enough : (Utf8.bytes (charsOfItems xs)).length ≤ left := by omega
    have others := items_yield xs regular.2 d (x :: acc) rest enough
    rw [List.cons_append, List.append_assoc, List.cons_append, foldItems_next starts,
      List.reverse_cons, List.append_assoc]
    exact ((item_yields first).bind others).congr Nat.max_le

/-- The rest of an object is read into what was read before it. -/
theorem members_yield : (ms : List (String × Json)) → RegularMembers ms →
    ∀ (d : Nat) {steps : Nat} (acc : List (String × Json)) (rest : List UInt8),
    ((acc ++ ms).map Prod.fst).Pairwise (· < ·) →
    (Utf8.bytes (charsOfMembers ms)).length ≤ steps →
    Yields (depthOfMembers ms ≤ d) (acc ++ ms) rest
      (foldMembers (member d) steps false acc (Utf8.bytes (charsOfMembers ms) ++ rest))
  | [], _, d, steps, acc, rest, _, enough => by
    obtain ⟨left, rfl⟩ := Nat.exists_eq_add_of_le' enough
    rw [charsOfMembers, Utf8.bytes_cons_ascii (by decide), List.append_nil]
    exact foldMembers_end ▸ Yields.ok.congr (iff_true_intro (Nat.zero_le d))
  | (k, v) :: ms, regular, d, steps, acc, rest, ordered, enough => by
    have first := value_yields v regular.1 d (stops_members ms rest)
    rw [charsOfMembers, Utf8.bytes_cons_ascii (by decide), Utf8.bytes_append,
      Utf8.bytes_cons_ascii (c := ':') (by decide), Utf8.bytes_append] at enough ⊢
    simp only [List.length_cons, List.length_append] at enough
    obtain ⟨left, rfl⟩ : ∃ left, steps = left + 1 := ⟨steps - 1, by omega⟩
    -- Keys come in order, so each member is inserted behind those that were read.
    have bound := insertMember_ordered ordered
    rw [List.append_cons] at ordered
    have enough : (Utf8.bytes (charsOfMembers ms)).length ≤ left := by omega
    have others := members_yield ms regular.2 d _ rest ordered enough
    rw [List.cons_append, List.append_assoc, List.cons_append, List.append_assoc, foldMembers_next,
      List.append_cons, ← bound]
    rw [← bound] at others
    exact ((member_yields first).bind others).congr Nat.max_le

end

end Read

/-- A printed value is read back, unless it is nested too deeply. -/
theorem parse_toBytes {v : Json} (regular : v.Regular) :
    (v.depth ≤ Read.depthLimit → parse v.toBytes = .ok v) ∧
      (Read.depthLimit < v.depth →
        ∃ f, parse v.toBytes = .error f ∧ f.cause = .recursionLimit) := by
  have ended : Read.Stops [] := nofun
  have y := Read.value_yields v regular Read.depthLimit ended
  rw [List.append_nil, ← Utf8.encode_ofList] at y
  constructor
  · intro fits
    rw [parse, toBytes, text, y.reads fits]
    rfl
  · intro deep
    obtain ⟨unread, failed⟩ := y.exceeds (Nat.not_le.2 deep)
    exact ⟨_, by rw [parse, toBytes, text, failed]; rfl, rfl⟩

end GattRpc.Json
