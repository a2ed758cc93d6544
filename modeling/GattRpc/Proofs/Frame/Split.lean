import GattRpc.Frame

/-! # Decoding a byte stream

Delimiters split a stream into the records that they end and a remainder. However the stream is cut
into chunks, an accumulator judges each record by itself and holds the remainder, and forgetting the
remainder leaves it as if it were new (`Accumulator.run_decodes`). What the accumulator holds is a
function of the remainder, `Accumulator.holding`, also when that is too large to be kept. -/

namespace GattRpc

namespace Frame

/-- The records that delimiters end. -/
def records (s : List UInt8) : List (List UInt8) := (s.splitOn delimiter).dropLast

/-- What follows the last delimiter. -/
def remainder (s : List UInt8) : List UInt8 := (s.splitOn delimiter).getLastD []

/-- There is nothing but white space: spaces, tabs, line feeds, form feeds and carriage returns. -/
def Blank (record : List UInt8) : Prop := ∀ b ∈ record, b ∈ [0x20, 0x09, 0x0A, 0x0C, 0x0D]

instance (record : List UInt8) : Decidable (Blank record) :=
  inferInstanceAs (Decidable (∀ b ∈ record, b ∈ [0x20, 0x09, 0x0A, 0x0C, 0x0D]))

/-- The message of a record, if it has one. -/
def message? (limit : Nat) (record : List UInt8) : Option Json :=
  if record.length ≤ limit ∧ ¬ Blank record then (Json.parse record).toOption else none

/-- How a record is discarded, if it is. -/
def dropped? (limit : Nat) (record : List UInt8) : Option Dropped :=
  if limit < record.length then some (.oversized record.length)
  else if Blank record then none
  else match Json.parse record with
    | .ok _ => none
    | .error f => some (.malformed record.length (f.message record))

/-- What a record amounts to. -/
def outcome (limit : Nat) (record : List UInt8) : Outcome :=
  if limit < record.length then .dropped (.oversized record.length) else readRecord record

/-- What the records of a stream amount to. -/
def outcomes (limit : Nat) (s : List UInt8) : List Outcome := (records s).map (outcome limit)

/-- The discarded records among some outcomes. -/
def drops (out : List Outcome) : List Dropped := out.filterMap Outcome.dropped?

variable {rs : List (List UInt8)} {r s t : List UInt8} {limit : Nat}

/-! ### Splitting -/

theorem splitOn_framed (hr : ∀ r ∈ rs, delimiter ∉ r) :
    (rs.flatMap (· ++ [delimiter]) ++ t).splitOn delimiter = rs ++ t.splitOn delimiter := by
  induction rs with
  | nil => rfl
  | cons r rs ih =>
    have head : delimiter ∉ r := hr r List.mem_cons_self
    have tail := ih fun r' h => hr r' (List.mem_cons_of_mem _ h)
    rw [List.flatMap_cons, List.append_assoc, List.append_assoc, List.singleton_append,
      List.splitOn_append_cons_self_of_not_mem head, tail, List.cons_append]

theorem records_framed (hr : ∀ r ∈ rs, delimiter ∉ r) :
    records (rs.flatMap (· ++ [delimiter]) ++ t) = rs ++ records t := by
  rw [records, splitOn_framed hr, List.dropLast_append_of_ne_nil (List.splitOn_ne_nil _ _), records]

theorem remainder_framed (hr : ∀ r ∈ rs, delimiter ∉ r) :
    remainder (rs.flatMap (· ++ [delimiter]) ++ t) = remainder t := by
  rw [remainder, remainder, splitOn_framed hr, List.getLastD_eq_getLast?, List.getLast?_append,
    List.getLastD_eq_getLast?, List.getLast?_eq_some_getLast (List.splitOn_ne_nil _ _)]
  rfl

theorem records_of_not_mem (ht : delimiter ∉ t) : records t = [] := by
  rw [records, List.splitOn_eq_singleton ht]
  rfl

theorem remainder_of_not_mem (ht : delimiter ∉ t) : remainder t = t := by
  rw [remainder, List.splitOn_eq_singleton ht]
  rfl

theorem records_cons (hr : delimiter ∉ r) : records (r ++ delimiter :: t) = r :: records t := by
  have framed := records_framed (t := t) (List.forall_mem_singleton.2 hr)
  rwa [List.flatMap_singleton, List.append_assoc] at framed

theorem remainder_cons (hr : delimiter ∉ r) :
    remainder (r ++ delimiter :: t) = remainder t := by
  have framed := remainder_framed (t := t) (List.forall_mem_singleton.2 hr)
  rwa [List.flatMap_singleton, List.append_assoc] at framed

theorem remainder_nil : remainder [] = [] := rfl

theorem exists_framed (s : List UInt8) : ∃ (rs : List (List UInt8)) (t : List UInt8),
    (∀ r ∈ rs, delimiter ∉ r) ∧ delimiter ∉ t ∧ s = rs.flatMap (· ++ [delimiter]) ++ t := by
  induction s with
  | nil => exact ⟨[], [], nofun, nofun, rfl⟩
  | cons b s ih =>
    obtain ⟨rs, t, hr, ht, rfl⟩ := ih
    by_cases hb : b = delimiter
    · subst hb
      refine ⟨[] :: rs, t, fun r h => ?_, ht, rfl⟩
      rcases List.mem_cons.1 h with rfl | h
      · exact nofun
      · exact hr r h
    have hb : delimiter ≠ b := fun h => hb h.symm
    cases rs with
    | nil => exact ⟨[], b :: t, nofun, List.not_mem_cons_of_ne_of_not_mem hb ht, rfl⟩
    | cons r rs =>
      refine ⟨(b :: r) :: rs, t, fun r' h => ?_, ht, rfl⟩
      rcases List.mem_cons.1 h with rfl | h
      · exact List.not_mem_cons_of_ne_of_not_mem hb (hr r List.mem_cons_self)
      · exact hr r' (List.mem_cons_of_mem _ h)

/-- A stream is its records, each with its delimiter, and its remainder. -/
theorem eq_framed (s : List UInt8) : (∀ r ∈ records s, delimiter ∉ r) ∧ delimiter ∉ remainder s ∧
    s = (records s).flatMap (· ++ [delimiter]) ++ remainder s := by
  obtain ⟨rs, t, hr, ht, rfl⟩ := exists_framed s
  rw [records_framed hr, remainder_framed hr, records_of_not_mem ht, remainder_of_not_mem ht,
    List.append_nil]
  exact ⟨hr, ht, rfl⟩

theorem records_append (s t : List UInt8) :
    records (s ++ t) = records s ++ records (remainder s ++ t) := by
  obtain ⟨hr, -, is⟩ := eq_framed s
  conv => lhs; rw [is, List.append_assoc, records_framed hr]

theorem remainder_append (s t : List UInt8) :
    remainder (s ++ t) = remainder (remainder s ++ t) := by
  obtain ⟨hr, -, is⟩ := eq_framed s
  conv => lhs; rw [is, List.append_assoc, remainder_framed hr]

/-! ### Records -/

theorem all_isBlank : r.all isBlank = true ↔ Blank r := by
  rw [List.all_eq_true]
  refine forall₂_congr fun b _ => ?_
  rw [isBlank, show ' '.toUInt8 = 0x20 from rfl, show '\t'.toUInt8 = 0x09 from rfl,
    show '\n'.toUInt8 = 0x0A from rfl, show '\r'.toUInt8 = 0x0D from rfl]
  simp [or_assoc]

theorem outcome_message? : (outcome limit r).message? = message? limit r := by
  unfold outcome message? readRecord
  by_cases large : limit < r.length
  · rw [if_pos large, if_neg fun h => Nat.not_le.2 large h.1]
    rfl
  · rw [if_neg large]
    by_cases blank : Blank r
    · rw [if_pos (all_isBlank.2 blank), if_neg fun h => h.2 blank]
      rfl
    · rw [if_neg fun h => blank (all_isBlank.1 h), if_pos ⟨Nat.not_lt.1 large, blank⟩]
      cases Json.parse r <;> rfl

theorem outcome_dropped? : (outcome limit r).dropped? = dropped? limit r := by
  unfold outcome dropped? readRecord
  by_cases large : limit < r.length
  · rw [if_pos large, if_pos large]
    rfl
  · rw [if_neg large, if_neg large]
    by_cases blank : Blank r
    · rw [if_pos (all_isBlank.2 blank), if_pos blank]
      rfl
    · rw [if_neg fun h => blank (all_isBlank.1 h), if_neg blank]
      cases Json.parse r <;> rfl

theorem drops_cons (o : Outcome) (out : List Outcome) :
    drops (o :: out) = o.dropped?.toList ++ drops out := by
  unfold drops
  cases h : o.dropped? <;> simp [h]

theorem drops_append (out more : List Outcome) : drops (out ++ more) = drops out ++ drops more :=
  List.filterMap_append

theorem outcomes_append (s t : List UInt8) :
    outcomes limit (s ++ t) = outcomes limit s ++ outcomes limit (remainder s ++ t) := by
  rw [outcomes, records_append, List.map_append, outcomes, outcomes]

end Frame

namespace Accumulator

/-- What an accumulator is given: a chunk, or the order to forget the unfinished record. -/
inductive Input
  | chunk (bytes : List UInt8)
  | reset

/-- The accumulator after some inputs, and the outcomes of the records that they finished. -/
def run : Accumulator → List Input → Accumulator × List Frame.Outcome
  | a, [] => (a, [])
  | a, .chunk bytes :: rest =>
    let (next, out) := a.feed bytes
    let (last, more) := run next rest
    (last, out ++ more)
  | a, .reset :: rest => run a.reset rest

/-- The streams that the chunks make up, after the first part of one. Each reset starts another. -/
def streams : List UInt8 → List Input → List (List UInt8)
  | s, [] => [s]
  | s, .chunk bytes :: rest => streams (s ++ bytes) rest
  | s, .reset :: rest => s :: streams [] rest

/-- What an accumulator has made of some inputs. -/
structure Decodes (limit : Nat) (inputs : List Input) (a : Accumulator)
    (out : List Frame.Outcome) : Prop where
  messages : out.filterMap Frame.Outcome.message? =
    ((streams [] inputs).flatMap Frame.records).filterMap (Frame.message? limit)
  drops : out.filterMap Frame.Outcome.dropped? =
    ((streams [] inputs).flatMap Frame.records).filterMap (Frame.dropped? limit)
  dropped : a.dropped = (out.filterMap Frame.Outcome.dropped?).length
  pending : a.pending = (Frame.remainder ((streams [] inputs).getLastD [])).length

/-- The accumulator that holds this unfinished record, and has discarded so many. -/
def holding (limit dropped : Nat) (p : List UInt8) : Accumulator :=
  if p.length ≤ limit then { limit, buffer := p.toArray, dropped }
  else { limit, overflow := p.length, dropped }

variable {limit n : Nat} {p : List UInt8}

theorem holding_nil : holding limit n [] = { limit, dropped := n } := if_pos (Nat.zero_le _)

theorem push_holding (b : UInt8) : (holding limit n p).push b = holding limit n (p ++ [b]) := by
  have length : (p ++ [b]).length = p.length + 1 := List.length_append
  rcases Nat.lt_trichotomy p.length limit with room | full | large
  · rw [holding, if_pos (Nat.le_of_lt room), holding, if_pos (by omega)]
    simp [push, Nat.not_le.2 room]
  · rw [holding, if_pos (Nat.le_of_eq full), holding, if_neg (by omega)]
    simp [push, full]
  · rw [holding, if_neg (by omega), holding, if_neg (by omega)]
    simp [push, show 0 < p.length by omega]

theorem outcome_holding : (holding limit n p).outcome = Frame.outcome limit p := by
  unfold holding outcome Frame.outcome
  by_cases room : p.length ≤ limit
  · simp [room, Nat.not_lt.2 room]
  · have long : limit < p.length := Nat.not_le.1 room
    simp [room, long, Nat.zero_lt_of_lt long]

theorem reset_holding : (holding limit n p).reset = holding limit n [] := by
  unfold holding
  split <;> rfl

/-- What is given up is all that was held: a record that is too large has left no bytes behind. -/
theorem release_holding : (holding limit n p).release = holding limit n [] := by
  rw [holding_nil]
  unfold holding release
  by_cases room : p.length ≤ limit
  · simp [room]
  · simp [room, Nat.zero_lt_of_lt (Nat.not_le.1 room)]

theorem next_holding (o : Frame.Outcome) :
    (holding limit n p).next o = holding limit (n + o.dropped?.toList.length) [] := by
  cases o with
  | dropped d =>
    rw [next, release_holding, holding_nil, holding_nil]
    unfold holding
    split <;> rfl
  | message | blank => exact release_holding

theorem pending_holding : (holding limit n p).pending = p.length := by
  unfold holding pending
  split
  · simp
  · simp

theorem dropped_holding : (holding limit n p).dropped = n := by
  unfold holding
  split <;> rfl

theorem holding_eq {m : Nat} : holding limit n p = { holding limit m p with dropped := n } := by
  unfold holding
  split <;> rfl

/-- A chunk ends the record that was begun, and others, and begins one. -/
theorem feed_holding {s : List UInt8} (hp : Frame.delimiter ∉ p) :
    (holding limit n p).feed s =
      (holding limit (n + (Frame.drops (Frame.outcomes limit (p ++ s))).length)
        (Frame.remainder (p ++ s)), Frame.outcomes limit (p ++ s)) := by
  induction s generalizing n p with
  | nil =>
    rw [List.append_nil, Frame.outcomes, Frame.records_of_not_mem hp, Frame.remainder_of_not_mem hp]
    rfl
  | cons b s ih =>
    by_cases hb : b = Frame.delimiter
    · subst hb
      have rest := ih (n := n + (Frame.outcome limit p).dropped?.toList.length) (p := []) nofun
      rw [List.nil_append, Nat.add_assoc] at rest
      rw [Frame.outcomes, Frame.records_cons hp, Frame.remainder_cons hp, List.map_cons,
        Frame.drops_cons, List.length_append]
      simp only [feed, if_true, outcome_holding, next_holding, rest]
      rfl
    · have framed : p ++ b :: s = (p ++ [b]) ++ s := by simp
      rw [feed, if_neg hb, push_holding, framed]
      exact ih (by simpa [hp] using Ne.symm hb)

theorem streams_ne_nil (s : List UInt8) (inputs : List Input) : streams s inputs ≠ [] := by
  induction inputs generalizing s with
  | nil => exact nofun
  | cons input rest ih =>
    cases input with
    | chunk bytes => exact ih _
    | reset => exact nofun

/-- The outcomes of a stream go on where those of its first part end. -/
theorem run_holding (limit n : Nat) (s : List UInt8) (inputs : List Input) : ∃ out,
    (holding limit n (Frame.remainder s)).run inputs =
      (holding limit (n + (Frame.drops out).length)
        (Frame.remainder ((streams s inputs).getLastD [])), out) ∧
      (streams s inputs).flatMap (Frame.outcomes limit) = Frame.outcomes limit s ++ out := by
  -- What was decoded of `s` is forgotten, but for its remainder, which the next chunk continues.
  induction inputs generalizing n s with
  | nil => exact ⟨[], rfl, by simp [streams]⟩
  | cons input rest ih =>
    cases input with
    | chunk bytes =>
      obtain ⟨out, runs, is⟩ := ih
        (n + (Frame.drops (Frame.outcomes limit (Frame.remainder s ++ bytes))).length) (s ++ bytes)
      refine ⟨Frame.outcomes limit (Frame.remainder s ++ bytes) ++ out, ?_, ?_⟩
      · simp only [run, feed_holding (Frame.eq_framed s).2.1, ← Frame.remainder_append, runs]
        rw [Frame.drops_append, List.length_append, Nat.add_assoc, streams]
      · rw [streams, is, Frame.outcomes_append, List.append_assoc]
    | reset =>
      obtain ⟨out, runs, is⟩ := ih n []
      refine ⟨out, ?_, ?_⟩
      · rw [run, reset_holding]
        rw [Frame.remainder_nil] at runs
        rw [runs, streams, List.getLastD_cons, List.getLastD_eq_getLast?, List.getLastD_eq_getLast?,
          List.getLast?_eq_some_getLast (streams_ne_nil _ _)]
        rfl
      · rw [streams, List.flatMap_cons, is]
        rfl

theorem run_eq (limit : Nat) (inputs : List Input) :
    let out := ((streams [] inputs).flatMap Frame.records).map (Frame.outcome limit)
    run { limit } inputs = (holding limit (Frame.drops out).length
      (Frame.remainder ((streams [] inputs).getLastD [])), out) := by
  obtain ⟨out, runs, is⟩ := run_holding limit 0 [] inputs
  rw [Frame.remainder_nil, holding_nil, Nat.zero_add] at runs
  have is : (streams [] inputs).flatMap (Frame.outcomes limit) = out := is
  rw [runs, ← is, List.map_flatMap]
  rfl

/-- A new accumulator decodes whatever it is given. -/
theorem run_decodes (limit : Nat) (inputs : List Input) :
    Decodes limit inputs (run { limit } inputs).1 (run { limit } inputs).2 := by
  rw [run_eq]
  refine ⟨?_, ?_, dropped_holding, pending_holding⟩
  · rw [List.filterMap_map]
    exact congrArg (List.filterMap · _) (funext fun r => Frame.outcome_message?)
  · rw [List.filterMap_map]
    exact congrArg (List.filterMap · _) (funext fun r => Frame.outcome_dropped?)

end Accumulator

end GattRpc
