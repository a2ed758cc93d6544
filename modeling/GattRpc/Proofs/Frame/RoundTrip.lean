import GattRpc.Proofs.Frame.Split
import GattRpc.Proofs.Json.RoundTrip
import Mathlib.Data.List.Basic

/-! # Frames carry values

No compact text contains the delimiter, so a frame is one record. Of frames that follow one another,
in whatever chunks they arrive, each gives its value, unless that is nested too deeply to be read;
then the frame is discarded, and no other suffers from it (`Accumulator.run_frames`). -/

namespace GattRpc

/-! ### Visible characters -/

namespace Json

theorem small_visible : ∀ d < 16, 0x20 ≤ (Hexadecimal.small d).toNat := by
  decide

theorem escape_visible (c : Char) : ∀ x ∈ escape c, 0x20 ≤ x.toNat := by
  unfold escape
  iterate 7
    split
    · simp
  split
  · next control =>
    have high := small_visible (c.toNat / 16) (by omega)
    have low := small_visible (c.toNat % 16) (by omega)
    simpa using ⟨high, low⟩
  · next control => simpa using control

theorem digit_visible : ∀ d < 10, 0x20 ≤ (Decimal.digit d).toNat := by
  decide

theorem digits_visible (n : Nat) : ∀ c ∈ Decimal.digits n, 0x20 ≤ c.toNat := by
  induction n using Nat.strongRecOn with
  | _ n ih =>
    rw [Decimal.digits]
    split
    · next small => exact List.forall_mem_singleton.2 (digit_visible n small)
    · next large =>
      exact List.forall_mem_append.2
        ⟨ih (n / 10) (by omega),
          List.forall_mem_singleton.2 (digit_visible _ (Nat.mod_lt _ (by decide)))⟩

theorem quoted_visible (s : String) : ∀ c ∈ quoted s, 0x20 ≤ c.toNat := by
  refine List.forall_mem_cons.2 ⟨by decide, List.forall_mem_append.2 ⟨fun x hx => ?_, by simp⟩⟩
  obtain ⟨c, -, hx⟩ := List.mem_flatMap.1 hx
  exact escape_visible c x hx

mutual

theorem chars_visible : (v : Json) → v.Regular → ∀ c ∈ v.chars, 0x20 ≤ c.toNat
  | .null, _ | .boolean true, _ | .boolean false, _ => by simp [chars]
  | .number (.integer i _), _ => by
    rw [chars, Number.chars, Decimal.signed]
    split
    · exact List.forall_mem_cons.2 ⟨by decide, digits_visible _⟩
    · exact digits_visible _
  | .string s, _ => quoted_visible s
  | .array [], _ | .object [], _ => by simp [chars]
  | .array (x :: xs), regular => by
    rw [chars]
    exact List.forall_mem_cons.2 ⟨by decide, List.forall_mem_append.2
      ⟨chars_visible x regular.1, charsOfItems_visible xs regular.2⟩⟩
  | .object ((k, v) :: ms), regular => by
    rw [chars]
    exact List.forall_mem_cons.2 ⟨by decide, List.forall_mem_append.2 ⟨quoted_visible k,
      List.forall_mem_cons.2 ⟨by decide, List.forall_mem_append.2
        ⟨chars_visible v regular.2.1, charsOfMembers_visible ms regular.2.2⟩⟩⟩⟩

theorem charsOfItems_visible : (xs : List Json) → RegularItems xs →
    ∀ c ∈ charsOfItems xs, 0x20 ≤ c.toNat
  | [], _ => by simp [charsOfItems]
  | x :: xs, regular => by
    rw [charsOfItems]
    exact List.forall_mem_cons.2 ⟨by decide, List.forall_mem_append.2
      ⟨chars_visible x regular.1, charsOfItems_visible xs regular.2⟩⟩

theorem charsOfMembers_visible : (ms : List (String × Json)) → RegularMembers ms →
    ∀ c ∈ charsOfMembers ms, 0x20 ≤ c.toNat
  | [], _ => by simp [charsOfMembers]
  | (k, v) :: ms, regular => by
    rw [charsOfMembers]
    exact List.forall_mem_cons.2 ⟨by decide, List.forall_mem_append.2 ⟨quoted_visible k,
      List.forall_mem_cons.2 ⟨by decide, List.forall_mem_append.2
        ⟨chars_visible v regular.1, charsOfMembers_visible ms regular.2⟩⟩⟩⟩

end

end Json

theorem Utf8.le_of_mem_bytes {cs : List Char} {b : UInt8} (visible : ∀ c ∈ cs, 0x20 ≤ c.toNat)
    (hb : b ∈ bytes cs) : 0x20 ≤ b := by
  obtain ⟨c, hc, hb⟩ := List.mem_flatMap.1 hb
  by_cases ascii : c.toNat < 0x80
  · rw [encodeChar_ascii ascii, List.mem_singleton] at hb
    rw [hb, UInt8.le_iff_toNat_le, toNat_toUInt8 ascii]
    exact visible c hc
  · exact UInt8.le_trans (by decide) (le_of_mem_encodeChar (Nat.not_lt.1 ascii) hb)

namespace Frame

variable {v : Json} {limit : Nat}

theorem delimiter_notMem_toBytes (regular : v.Regular) : delimiter ∉ v.toBytes := by
  intro mem
  rw [Json.toBytes, Json.text, Utf8.encode_ofList] at mem
  exact absurd (Utf8.le_of_mem_bytes (Json.chars_visible v regular) mem) (by decide)

/-- A frame ends with its only delimiter. -/
theorem count_delimiter_encode (regular : v.Regular) : (encode v).count delimiter = 1 := by
  rw [encode, List.count_append, List.count_eq_zero.2 (delimiter_notMem_toBytes regular)]
  rfl

theorem not_blank_toBytes (regular : v.Regular) : ¬ Blank v.toBytes := by
  intro blank
  obtain ⟨b, bs, is, starts⟩ := Json.Read.chars_starts v regular
  rw [Json.toBytes, Json.text, Utf8.encode_ofList, is] at blank
  have first := blank b List.mem_cons_self
  simp only [List.mem_cons, List.not_mem_nil, or_false] at first
  rcases first with rfl | rfl | rfl | rfl | rfl <;> exact absurd starts.1 (by decide)

/-- Why the text of a value is not read, if it is not. -/
def refusal (v : Json) : String :=
  match Json.parse v.toBytes with
  | .ok _ => ""
  | .error f => f.message v.toBytes

/-- A value is the message of its text, unless it is nested too deeply. -/
theorem message?_toBytes (regular : v.Regular) (fits : v.toBytes.length ≤ limit) :
    message? limit v.toBytes = Option.guard (fun v => v.depth ≤ 127) v := by
  rw [message?, if_pos ⟨fits, not_blank_toBytes regular⟩]
  by_cases shallow : v.depth ≤ 127
  · rw [(Json.parse_toBytes regular).1 shallow, Option.guard, if_pos (decide_eq_true shallow)]
    rfl
  · obtain ⟨f, failed, -⟩ := (Json.parse_toBytes regular).2 (Nat.not_le.1 shallow)
    rw [failed, Option.guard, if_neg (by simpa using shallow)]
    rfl

theorem dropped?_toBytes (regular : v.Regular) (fits : v.toBytes.length ≤ limit) :
    dropped? limit v.toBytes = (Option.guard (fun v => 127 < v.depth) v).map fun v =>
      .malformed v.toBytes.length (refusal v) := by
  rw [dropped?, if_neg (Nat.not_lt.2 fits), if_neg (not_blank_toBytes regular)]
  by_cases shallow : v.depth ≤ 127
  · rw [(Json.parse_toBytes regular).1 shallow, Option.guard, if_neg (by simpa using shallow)]
    rfl
  · have deep := Nat.not_le.1 shallow
    obtain ⟨f, failed, -⟩ := (Json.parse_toBytes regular).2 deep
    rw [failed, Option.guard, if_pos (decide_eq_true deep), Option.map_some, refusal, failed]

end Frame

namespace Accumulator

variable {limit : Nat} {vs : List Json} {chunks : List (List UInt8)}

theorem streams_chunks (s : List UInt8) (chunks : List (List UInt8)) :
    streams s (chunks.map .chunk) = [s ++ chunks.flatten] := by
  induction chunks generalizing s with
  | nil => rw [List.map_nil, streams, List.flatten_nil, List.append_nil]
  | cons c cs ih => rw [List.map_cons, streams, ih, List.flatten_cons, List.append_assoc]

/-- The frames of some values are decoded to what their texts amount to. -/
theorem decodes_frames (limit : Nat) (regular : ∀ v ∈ vs, v.Regular)
    (cut : chunks.flatten = vs.flatMap Frame.encode) :
    let r := run { limit } (chunks.map .chunk)
    r.2.filterMap Frame.Outcome.message? = vs.filterMap (fun v => Frame.message? limit v.toBytes) ∧
      r.2.filterMap Frame.Outcome.dropped? =
        vs.filterMap (fun v => Frame.dropped? limit v.toBytes) ∧
      r.1.dropped = (r.2.filterMap Frame.Outcome.dropped?).length ∧ r.1.pending = 0 := by
  have clean : ∀ r ∈ vs.map Json.toBytes, Frame.delimiter ∉ r := by
    intro r hr
    obtain ⟨v, hv, rfl⟩ := List.mem_map.1 hr
    exact Frame.delimiter_notMem_toBytes (regular v hv)
  have framed : chunks.flatten =
      (vs.map Json.toBytes).flatMap (· ++ [Frame.delimiter]) ++ [] := by
    rw [cut, List.flatMap_map, List.append_nil]
    rfl
  have streams : streams [] (chunks.map .chunk) = [chunks.flatten] := streams_chunks [] chunks
  have records : Frame.records chunks.flatten = vs.map Json.toBytes := by
    rw [framed, Frame.records_framed clean]
    exact List.append_nil _
  have remainder : Frame.remainder chunks.flatten = [] := by
    rw [framed, Frame.remainder_framed clean, Frame.remainder_nil]
  have runs := run_eq limit (chunks.map .chunk)
  rw [streams, List.flatMap_singleton, records, List.map_map] at runs
  rw [runs]
  refine ⟨?_, ?_, dropped_holding, ?_⟩
  · rw [List.filterMap_map]
    exact congrArg (List.filterMap · _) (funext fun v => Frame.outcome_message?)
  · rw [List.filterMap_map]
    exact congrArg (List.filterMap · _) (funext fun v => Frame.outcome_dropped?)
  · exact pending_holding.trans (congrArg List.length remainder)

/-- What an accumulator makes of the frames of some values. -/
structure RoundTrips (vs : List Json) (a : Accumulator) (out : List Frame.Outcome) : Prop where
  /-- Each frame ends with its only delimiter. -/
  framed : ∀ v ∈ vs, (Frame.encode v).count Frame.delimiter = 1 ∧
    (Frame.encode v).getLast? = some Frame.delimiter
  /-- The values come back, unless they are nested too deeply. -/
  messages : out.filterMap Frame.Outcome.message? = vs.filter fun v => v.depth ≤ 127
  /-- Those that are count as malformed, one by one. -/
  drops : out.filterMap Frame.Outcome.dropped? =
    (vs.filter fun v => 127 < v.depth).map fun v => .malformed v.toBytes.length (Frame.refusal v)
  dropped : a.dropped = (vs.filter fun v => 127 < v.depth).length
  pending : a.pending = 0
  /-- If none is, then nothing is lost. -/
  lossless : (∀ v ∈ vs, v.depth ≤ 127) → out.filterMap Frame.Outcome.message? = vs ∧
    out.filterMap Frame.Outcome.dropped? = [] ∧ a.dropped = 0

theorem filterMap_message? (regular : ∀ v ∈ vs, v.Regular)
    (fits : ∀ v ∈ vs, v.toBytes.length ≤ limit) :
    vs.filterMap (fun v => Frame.message? limit v.toBytes) = vs.filter fun v => v.depth ≤ 127 := by
  rw [← List.filterMap_eq_filter]
  exact List.filterMap_congr fun v hv => Frame.message?_toBytes (regular v hv) (fits v hv)

theorem filterMap_dropped? (regular : ∀ v ∈ vs, v.Regular)
    (fits : ∀ v ∈ vs, v.toBytes.length ≤ limit) :
    vs.filterMap (fun v => Frame.dropped? limit v.toBytes) =
      (vs.filter fun v => 127 < v.depth).map fun v =>
        .malformed v.toBytes.length (Frame.refusal v) := by
  rw [← List.filterMap_eq_filter, List.map_filterMap]
  exact List.filterMap_congr fun v hv => Frame.dropped?_toBytes (regular v hv) (fits v hv)

/-- Frames carry their values, in whatever chunks they arrive. -/
theorem run_frames (regular : ∀ v ∈ vs, v.Regular) (fits : ∀ v ∈ vs, v.toBytes.length ≤ limit)
    (cut : chunks.flatten = vs.flatMap Frame.encode) :
    RoundTrips vs (run { limit } (chunks.map .chunk)).1 (run { limit } (chunks.map .chunk)).2 := by
  obtain ⟨messages, drops, dropped, pending⟩ := decodes_frames limit regular cut
  rw [filterMap_message? regular fits] at messages
  rw [filterMap_dropped? regular fits] at drops
  rw [drops, List.length_map] at dropped
  refine ⟨fun v hv => ⟨Frame.count_delimiter_encode (regular v hv), List.getLast?_concat⟩, messages,
    drops, dropped, pending, fun shallow => ?_⟩
  have all : (vs.filter fun v => v.depth ≤ 127) = vs :=
    List.filter_eq_self.2 fun v hv => decide_eq_true (shallow v hv)
  have none : (vs.filter fun v => 127 < v.depth) = [] :=
    List.filter_eq_nil_iff.2 fun v hv => by simpa using shallow v hv
  rw [all] at messages
  rw [none] at drops dropped
  exact ⟨messages, drops, dropped⟩

/-- Three frames that arrive byte by byte. -/
theorem run_frames_bytewise :
    let vs : List Json := [.string "\x1e\"é",
      .array [.number (.integer (-0x8000000000000000) (by decide)), .boolean true],
      .object [("a", .null), ("b", .array [])]]
    let chunks := (vs.flatMap Frame.encode).map fun b => [b]
    let r := run { limit := 64 } (chunks.map .chunk)
    RoundTrips vs r.1 r.2 ∧ r.2.filterMap Frame.Outcome.message? = vs := by
  intro vs chunks r
  have regular : ∀ v ∈ vs, v.Regular := by
    simp only [vs, List.forall_mem_cons]
    exact ⟨trivial, ⟨trivial, trivial, trivial⟩, ⟨by decide, trivial, trivial, trivial⟩, nofun⟩
  have fits : ∀ v ∈ vs, v.toBytes.length ≤ 64 := by
    simp only [vs, List.forall_mem_cons, Json.toBytes, Json.text, Utf8.encode_ofList]
    exact ⟨by decide, by decide +kernel, by decide, nofun⟩
  have frames : RoundTrips vs r.1 r.2 := run_frames regular fits (List.flatMap_singleton' _)
  exact ⟨frames, (frames.lossless (by decide)).1⟩

end Accumulator

end GattRpc
