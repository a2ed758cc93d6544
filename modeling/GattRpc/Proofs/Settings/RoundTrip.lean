import GattRpc.Settings.Reader
import GattRpc.Settings.Writer
import GattRpc.Proofs.Json.Fields
import GattRpc.Proofs.Toml.Documents

/-! # Settings are read back as they were written

Settings can be written just when their numbers fit a signed integer, and the text is then read as
the same settings, whatever the address is. -/

namespace GattRpc.Settings

open Toml Toml.Read

variable {n : UInt64} {s : Settings} {text : String}

/-- The largest number that a document can hold. -/
def largest : Nat := 0x7FFFFFFFFFFFFFFF

/-- Every number of the settings can be written. -/
structure Fits (s : Settings) : Prop where
  pollInterval : s.rpc.pollInterval.toNat ≤ largest
  requestTimeout : ∀ t ∈ s.rpc.requestTimeout, t.toNat ≤ largest
  commandQueue : s.rpc.commandQueue.toNat ≤ largest

/-! ### Writing -/

theorem integer?_eq_some_iff {ds : List Char} :
    integer? n = some ds ↔ n.toNat ≤ largest ∧ Decimal.digits n.toNat = ds := by
  rw [integer?]
  split
  · next small => simp [show n.toNat ≤ largest by rw [largest]; omega]
  · next large => simp [show ¬ n.toNat ≤ largest by rw [largest]; omega]

theorem integer?_eq_some (fits : n.toNat ≤ largest) :
    integer? n = some (Decimal.digits n.toNat) :=
  integer?_eq_some_iff.2 ⟨fits, rfl⟩

/-- The lines of the first section. -/
def Device.lines (d : Device) : List Line :=
  (d.address.map fun a => ⟨"address", quotedString a, .string a⟩).toList

/-- The line of a number. -/
def numberLine (key : String) (n : UInt64) : Line :=
  ⟨key, Decimal.digits n.toNat, .integer n.toNat⟩

/-- The lines of the second section. -/
def Rpc.lines (r : Rpc) : List Line :=
  [⟨"poll_mode", quotedString r.polling.name, .string r.polling.name⟩,
    numberLine "poll_interval_ms" r.pollInterval] ++
  (r.requestTimeout.map (numberLine "request_timeout_ms")).toList ++
  [⟨"cancel_policy", quotedString (cancelPolicyName r.cancelPolicy),
      .string (cancelPolicyName r.cancelPolicy)⟩,
    numberLine "command_queue" r.commandQueue]

/-- The two sections with an empty line between them. -/
def document (s : Settings) : List Char :=
  ('[' :: ("device".toList ++ [']', '\n']) ++ s.device.lines.flatMap Line.chars) ++ ['\n'] ++
    ('[' :: ("rpc".toList ++ [']', '\n']) ++ s.rpc.lines.flatMap Line.chars)

/-- A line that is there only if something is set. -/
theorem flatMap_chars {α : Type} (f : α → Line) (o : Option α) :
    (o.map f).toList.flatMap Line.chars = (o.map fun a => (f a).chars).getD [] := by
  cases o with
  | none => rfl
  | some a => exact List.append_nil _

theorem deviceLines_eq (d : Device) :
    deviceLines d = '[' :: ("device".toList ++ [']', '\n']) ++ d.lines.flatMap Line.chars := by
  have header : "[device]\n".toList = '[' :: ("device".toList ++ [']', '\n']) := by simp
  rw [Device.lines, flatMap_chars, ← header]
  rfl

theorem rpcLines?_eq_some (fits : s.Fits) : rpcLines? s.rpc =
    some ('[' :: ("rpc".toList ++ [']', '\n']) ++ s.rpc.lines.flatMap Line.chars) := by
  obtain ⟨interval, timeout, queue⟩ := fits
  have timeout? : s.rpc.requestTimeout.mapM integer? =
      some (s.rpc.requestTimeout.map fun t => Decimal.digits t.toNat) := by
    cases is : s.rpc.requestTimeout with
    | none => rfl
    | some t =>
      rw [Option.mapM_some, integer?_eq_some (timeout t is)]
      rfl
  have header : "[rpc]\n".toList = '[' :: ("rpc".toList ++ [']', '\n']) := by simp
  have lines : s.rpc.lines.flatMap Line.chars =
      entry "poll_mode" (quotedString s.rpc.polling.name)
        ++ entry "poll_interval_ms" (Decimal.digits s.rpc.pollInterval.toNat)
        ++ ((s.rpc.requestTimeout.map fun t => Decimal.digits t.toNat).map
          (entry "request_timeout_ms")).getD []
        ++ entry "cancel_policy" (quotedString (cancelPolicyName s.rpc.cancelPolicy))
        ++ entry "command_queue" (Decimal.digits s.rpc.commandQueue.toNat) := by
    rw [Rpc.lines, List.flatMap_append, List.flatMap_append, flatMap_chars, Option.map_map]
    simp only [List.flatMap_cons, List.flatMap_nil, List.append_nil, List.append_assoc]
    rfl
  rw [rpcLines?, integer?_eq_some interval, integer?_eq_some queue, timeout?, lines, ← header]
  simp only [Option.bind_eq_bind, Option.bind_some, Option.pure_def, List.append_assoc]

theorem text?_eq_some (fits : s.Fits) : s.text? = some (String.ofList s.document) := by
  rw [text?, rpcLines?_eq_some fits, document, deviceLines_eq, List.append_assoc]
  rfl

theorem fits_of_text? (is : s.text? = some text) : s.Fits := by
  obtain ⟨rpc, is, -⟩ := Option.bind_eq_some_iff.1 is
  obtain ⟨interval, hi, is⟩ := Option.bind_eq_some_iff.1 is
  obtain ⟨timeout, ht, is⟩ := Option.bind_eq_some_iff.1 is
  obtain ⟨queue, hq, -⟩ := Option.bind_eq_some_iff.1 is
  refine ⟨(integer?_eq_some_iff.1 hi).1, fun t set => ?_, (integer?_eq_some_iff.1 hq).1⟩
  rw [Option.mem_def.1 set, Option.mapM_some] at ht
  obtain ⟨ds, hd, -⟩ := Option.map_eq_some_iff.1 ht
  exact (integer?_eq_some_iff.1 hd).1

/-- A number that does not fit leaves nothing to write. -/
theorem text?_eq_none (large : ¬ s.Fits) : s.text? = none := by
  cases is : s.text? with
  | none => rfl
  | some text => exact absurd (fits_of_text? is) large

/-! ### Reading -/

theorem foldlM_cons {α β ε : Type} {f : β → α → Except ε β} {a : α} {as : List α}
    {b b' : β} (step : f b a = .ok b') : (a :: as).foldlM f b = as.foldlM f b' := by
  rw [List.foldlM_cons, step]
  rfl

theorem Device.fromToml_lines (d : Device) :
    Device.fromToml (.table .header (d.lines.map Line.member)) = .ok d := by
  obtain ⟨address⟩ := d
  cases address with
  | none => rfl
  | some a => rfl

namespace Rpc

variable (r : Rpc)

theorem set_polling (p : Polling) :
    r.set ("poll_mode", .string p.name) = .ok { r with polling := p } := by
  cases p with
  | notify => rfl
  | interval => rfl

theorem set_cancelPolicy (p : CancelPolicy) :
    r.set ("cancel_policy", .string (cancelPolicyName p)) = .ok { r with cancelPolicy := p } := by
  cases p with
  | notify => rfl
  | drop => rfl

theorem set_pollInterval (n : UInt64) :
    r.set ("poll_interval_ms", .integer n.toNat) = .ok { r with pollInterval := n } := by
  rw [set, found, Found.toUInt64_eq_ok.2 rfl]
  rfl

theorem set_requestTimeout (n : UInt64) :
    r.set ("request_timeout_ms", .integer n.toNat) = .ok { r with requestTimeout := some n } := by
  rw [set, found, Found.toUInt64_eq_ok.2 rfl]
  rfl

theorem set_commandQueue (n : UInt64) :
    r.set ("command_queue", .integer n.toNat) = .ok { r with commandQueue := n } := by
  rw [set, found, Found.toUInt64_eq_ok.2 rfl]
  rfl

theorem fromToml_lines : Rpc.fromToml (.table .header (r.lines.map Line.member)) = .ok r := by
  obtain ⟨polling, interval, timeout, policy, queue⟩ := r
  show (Rpc.lines _ |>.map Line.member).foldlM set {} = _
  cases timeout with
  | none =>
    exact (foldlM_cons (set_polling _ _)).trans <| (foldlM_cons (set_pollInterval _ _)).trans <|
      (foldlM_cons (set_cancelPolicy _ _)).trans <| (foldlM_cons (set_commandQueue _ _)).trans rfl
  | some t =>
    exact (foldlM_cons (set_polling _ _)).trans <| (foldlM_cons (set_pollInterval _ _)).trans <|
      (foldlM_cons (set_requestTimeout _ _)).trans <|
      (foldlM_cons (set_cancelPolicy _ _)).trans <| (foldlM_cons (set_commandQueue _ _)).trans rfl

end Rpc

theorem fromToml_members (s : Settings) :
    fromToml (.table .header
      [("device", .table .header (s.device.lines.map Line.member)),
        ("rpc", .table .header (s.rpc.lines.map Line.member))]) = .ok s := by
  have device (s' : Settings) : s'.set ("device", .table .header (s.device.lines.map Line.member)) =
      .ok { s' with device := s.device } := by
    rw [set, Device.fromToml_lines]
    rfl
  have rpc (s' : Settings) : s'.set ("rpc", .table .header (s.rpc.lines.map Line.member)) =
      .ok { s' with rpc := s.rpc } := by
    rw [set, Rpc.fromToml_lines]
    rfl
  exact (foldlM_cons (device _)).trans ((foldlM_cons (rpc _)).trans rfl)

/-! ### The document -/

theorem good_string {k a : String} (bare : Bare k) :
    (Line.mk k (quotedString a) (.string a)).Good :=
  ⟨bare, holds_string a⟩

theorem good_number {k : String} (bare : Bare k) (fits : n.toNat ≤ largest) :
    (numberLine k n).Good :=
  ⟨bare, holds_integer (by rw [largest] at fits; omega)⟩

theorem good_device (d : Device) : ∀ l ∈ d.lines, l.Good := by
  intro l hl
  obtain ⟨a, -, rfl⟩ := Option.map_eq_some_iff.1 (Option.mem_toList.1 hl)
  exact good_string ⟨by decide, by decide⟩

theorem good_rpc (fits : s.Fits) : ∀ l ∈ s.rpc.lines, l.Good := by
  intro l hl
  simp only [Rpc.lines, List.mem_append, List.mem_cons, List.not_mem_nil, or_false,
    Option.mem_toList, Option.map_eq_some_iff] at hl
  rcases hl with ((rfl | rfl) | ⟨t, set, rfl⟩) | rfl | rfl
  · exact good_string ⟨by decide, by decide⟩
  · exact good_number ⟨by decide, by decide⟩ fits.pollInterval
  · exact good_number ⟨by decide, by decide⟩ (fits.requestTimeout t set)
  · exact good_string ⟨by decide, by decide⟩
  · exact good_number ⟨by decide, by decide⟩ fits.commandQueue

theorem nodup_device (d : Device) : (d.lines.map Line.key).Nodup := by
  obtain ⟨address⟩ := d
  cases address with
  | none => exact List.nodup_nil
  | some a => exact (by decide : ["address"].Nodup)

theorem nodup_rpc (r : Rpc) : (r.lines.map Line.key).Nodup := by
  obtain ⟨polling, interval, timeout, policy, queue⟩ := r
  have keys : ["poll_mode", "poll_interval_ms", "request_timeout_ms", "cancel_policy",
      "command_queue"].Nodup := by decide
  cases timeout with
  | none => exact (by decide : ["poll_mode", "poll_interval_ms", "cancel_policy",
      "command_queue"].Nodup)
  | some t => exact keys

theorem leads_document (fits : s.Fits) : ∃ n d, Leads {} n s.document d ∧
    d.finish = some (.table .header
      [("device", .table .header (s.device.lines.map Line.member)),
        ("rpc", .table .header (s.rpc.lines.map Line.member))]) := by
  have first : "device" ∉ ([] : List (String × Toml)).map Prod.fst := List.not_mem_nil
  have device := leads_section (d := {}) ⟨by decide, by decide⟩ (good_device s.device) rfl first
    (nodup_device s.device)
  have second : "rpc" ∉ ["device"] := by decide
  have closed := finish_afterSection s.device.lines first
  have rpc := leads_section ⟨by decide, by decide⟩ (good_rpc fits) closed second
    (nodup_rpc s.rpc)
  exact ⟨_, _, (device.trans leads_blank).trans rpc, finish_afterSection _ second⟩

/-- What was written is read back. -/
theorem parse_document (fits : s.Fits) : parse (String.ofList s.document) = .ok s := by
  obtain ⟨n, d, leads, finished⟩ := leads_document fits
  have read : Toml.parse (String.ofList s.document) = d.finish := by
    refine parse_of_leads (n := n) (by rwa [String.toList_ofList]) ?_
    rw [String.toList_ofList]
    exact fun same => absurd (Option.some.inj same) (by decide)
  rw [parse, read, finished]
  show (fromToml _).mapError _ = _
  rw [fromToml_members]
  rfl

end GattRpc.Settings
