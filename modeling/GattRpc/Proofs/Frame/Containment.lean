import GattRpc.Proofs.Frame.Split

/-! # What an accumulator holds of a record

However long a delimiter is withheld, an accumulator keeps no more bytes of a record than its limit.
Past the limit it keeps none and only counts. The buffer and the counter are never both in use
(`Contained`), and this is why giving up the one that is in use leaves nothing of a finished record
behind, whatever it amounted to (`Contained.next_eq`). What follows a delimiter is then decoded as
by a new accumulator (`Accumulator.run_confines`). -/

namespace GattRpc

namespace Accumulator

variable {limit : Nat} {a : Accumulator} {b : UInt8}

/-! ### Cutting the input -/

theorem feed_append (a : Accumulator) (s t : List UInt8) :
    a.feed (s ++ t) = (((a.feed s).1.feed t).1, (a.feed s).2 ++ ((a.feed s).1.feed t).2) := by
  induction s generalizing a with
  | nil => rfl
  | cons b s ih =>
    by_cases hb : b = Frame.delimiter
    · simp [feed, hb, ih]
    · simp [feed, hb, ih]

theorem run_chunk (a : Accumulator) (s : List UInt8) (rest : List Input) :
    a.run (.chunk s :: rest) =
      (((a.feed s).1.run rest).1, (a.feed s).2 ++ ((a.feed s).1.run rest).2) := rfl

theorem run_append (a : Accumulator) (xs ys : List Input) :
    a.run (xs ++ ys) = (((a.run xs).1.run ys).1, (a.run xs).2 ++ ((a.run xs).1.run ys).2) := by
  induction xs generalizing a with
  | nil => rfl
  | cons x xs ih =>
    cases x with
    | chunk s => rw [List.cons_append, run_chunk, run_chunk, ih, List.append_assoc]
    | reset => exact ih a.reset

theorem run_cut (a : Accumulator) (s t : List UInt8) (rest : List Input) :
    a.run (.chunk (s ++ t) :: rest) = a.run (.chunk s :: .chunk t :: rest) := by
  simp only [run_chunk, feed_append, List.append_assoc]

/-! ### The invariant -/

/-- What is held of an unfinished record is within the limit, or is only its length. -/
structure Contained (limit : Nat) (a : Accumulator) : Prop where
  limit_eq : a.limit = limit
  size_le : a.buffer.size ≤ limit
  unended : Frame.delimiter ∉ a.buffer
  overflowing : 0 < a.overflow → a.buffer = #[] ∧ limit < a.overflow

namespace Contained

theorem new (n : Nat) : Contained limit { limit, dropped := n } :=
  ⟨rfl, Nat.zero_le _, by simp, fun large => absurd large (Nat.lt_irrefl 0)⟩

theorem push (h : Contained limit a) (hb : b ≠ Frame.delimiter) : Contained limit (a.push b) := by
  obtain ⟨rfl, size_le, unended, overflowing⟩ := h
  unfold Accumulator.push
  by_cases large : 0 < a.overflow
  · obtain ⟨empty, past⟩ := overflowing large
    rw [if_pos large]
    exact ⟨rfl, size_le, unended, fun _ => ⟨empty, Nat.lt_succ_of_lt past⟩⟩
  rw [if_neg large]
  by_cases full : a.limit ≤ a.buffer.size
  · rw [if_pos full]
    exact ⟨rfl, Nat.zero_le _, by simp, fun _ => ⟨rfl, Nat.lt_succ_of_le full⟩⟩
  rw [if_neg full]
  refine ⟨rfl, ?_, fun mem => ?_, fun again => absurd again large⟩
  · show (a.buffer.push b).size ≤ a.limit
    rw [Array.size_push]
    omega
  · rcases Array.mem_push.1 mem with mem | is
    · exact unended mem
    · exact hb is.symm

theorem reset (h : Contained limit a) : Contained limit a.reset := by
  obtain ⟨rfl, -, -, -⟩ := h
  exact new a.dropped

/-- Giving up what is in use is enough, as the other one is empty. -/
theorem release_eq (h : Contained limit a) : a.release = { limit, dropped := a.dropped } := by
  obtain ⟨rfl, -, -, overflowing⟩ := h
  unfold release
  by_cases large : 0 < a.overflow
  · obtain ⟨empty, -⟩ := overflowing large
    rw [if_pos large, empty]
    rfl
  · have none : a.overflow = 0 := Nat.eq_zero_of_not_pos large
    rw [if_neg large, none]
    rfl

/-- A delimiter leaves nothing of the record that it ends, whatever this amounts to. -/
theorem next_eq (h : Contained limit a) (o : Frame.Outcome) :
    a.next o = { limit, dropped := a.dropped + o.dropped?.toList.length } := by
  cases o with
  | dropped d => rw [Accumulator.next, h.release_eq]; rfl
  | message | blank => exact h.release_eq

theorem next (h : Contained limit a) (o : Frame.Outcome) : Contained limit (a.next o) := by
  rw [h.next_eq]
  exact new _

theorem feed (h : Contained limit a) (s : List UInt8) : Contained limit (a.feed s).1 := by
  induction s generalizing a with
  | nil => exact h
  | cons b s ih =>
    by_cases hb : b = Frame.delimiter
    · rw [Accumulator.feed, if_pos hb]
      exact ih (h.next _)
    · rw [Accumulator.feed, if_neg hb]
      exact ih (h.push hb)

theorem run (h : Contained limit a) (inputs : List Input) : Contained limit (a.run inputs).1 := by
  induction inputs generalizing a with
  | nil => exact h
  | cons input rest ih =>
    cases input with
    | chunk s => exact ih (h.feed s)
    | reset => exact ih h.reset

/-- A delimiter gives one outcome, and leaves only the count of discarded records. -/
theorem feed_delimiter (h : Contained limit a) : a.feed [Frame.delimiter] =
    ({ limit, dropped := a.dropped + a.outcome.dropped?.toList.length }, [a.outcome]) := by
  rw [← h.next_eq]
  rfl

end Contained

/-! ### After a delimiter -/

theorem run_delimiter (limit : Nat) (inputs : List Input) (s : List UInt8) :
    let before := run { limit } (inputs ++ [.chunk s])
    run { limit } (inputs ++ [.chunk (s ++ [Frame.delimiter])]) =
      ({ limit, dropped := before.1.dropped + before.1.outcome.dropped?.toList.length },
        before.2 ++ [before.1.outcome]) := by
  intro before
  have held : Contained limit before.1 := (Contained.new 0).run _
  calc run { limit } (inputs ++ [.chunk (s ++ [Frame.delimiter])])
    _ = run { limit } ((inputs ++ [.chunk s]) ++ [.chunk [Frame.delimiter]]) := by
      rw [run_append, run_cut, ← run_append, List.append_cons]
    _ = ((before.1.feed [Frame.delimiter]).1, before.2 ++ (before.1.feed [Frame.delimiter]).2) := by
      rw [run_append, run_chunk, run, List.append_nil]
    _ = _ := by rw [held.feed_delimiter]

/-- Records that were discarded before are counted and have no other effect. -/
theorem run_new (limit n : Nat) (inputs : List Input) :
    let fresh := run { limit } inputs
    run { limit, dropped := n } inputs =
      ({ fresh.1 with dropped := n + fresh.1.dropped }, fresh.2) := by
  obtain ⟨out, counted, is⟩ := run_holding limit n [] inputs
  obtain ⟨out', uncounted, is'⟩ := run_holding limit 0 [] inputs
  obtain rfl : out = out' := List.append_cancel_left (is.symm.trans is')
  rw [Frame.remainder_nil, holding_nil] at counted uncounted
  simp only [counted, uncounted, dropped_holding, Nat.zero_add]
  exact Prod.ext holding_eq rfl

/-- What a new accumulator holds after some inputs, and what a delimiter leaves of it. -/
structure Confines (limit : Nat) (inputs : List Input) : Prop where
  contained : Contained limit (run { limit } inputs).1
  /-- Within a chunk it stands as at the end of a shorter one. -/
  midway (s t : List UInt8) (rest : List Input) :
    run { limit } (inputs ++ .chunk (s ++ t) :: rest) =
      run { limit } (inputs ++ .chunk s :: .chunk t :: rest)
  emptied (s : List UInt8) :
    let before := run { limit } (inputs ++ [.chunk s])
    run { limit } (inputs ++ [.chunk (s ++ [Frame.delimiter])]) =
      ({ limit, buffer := #[], overflow := 0,
         dropped := before.1.dropped + before.1.outcome.dropped?.toList.length },
        before.2 ++ [before.1.outcome])
  /-- What comes after a delimiter is decoded as if nothing had come before it. -/
  apart (s : List UInt8) (rest : List Input) :
    let before := run { limit } (inputs ++ [.chunk (s ++ [Frame.delimiter])])
    let fresh := run { limit } rest
    run { limit } (inputs ++ .chunk (s ++ [Frame.delimiter]) :: rest) =
      ({ fresh.1 with dropped := before.1.dropped + fresh.1.dropped }, before.2 ++ fresh.2)

/-- Whatever it is given, an accumulator confines each record to the limit and to itself. -/
theorem run_confines (limit : Nat) (inputs : List Input) : Confines limit inputs := by
  refine ⟨(Contained.new 0).run inputs, fun s t rest => ?_, run_delimiter limit inputs, ?_⟩
  · rw [run_append, run_append, run_cut]
  · intro s rest before fresh
    obtain ⟨n, out, ended⟩ : ∃ n out, before = ({ limit, dropped := n }, out) :=
      ⟨_, _, run_delimiter limit inputs s⟩
    rw [List.append_cons, run_append]
    change ((before.1.run rest).1, before.2 ++ (before.1.run rest).2) = _
    rw [ended, run_new]

-- Where nothing may be kept, a record is counted from its first byte on.
example : (run { limit := 0 } [.chunk [0x31], .chunk [0x31, 0x1E, 0x32]]).1 =
    { limit := 0, overflow := 1, dropped := 1 } := by decide

end Accumulator

end GattRpc
