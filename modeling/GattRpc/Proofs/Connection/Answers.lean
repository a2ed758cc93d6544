import GattRpc.Proofs.Connection.Waiting

/-! # Whom a response reaches

Each response in the stream of the inbox is routed once. If a request waits under its id then, the
callback of that request is told the response; otherwise an orphan is reported. Nothing else is told
of a response (`Connection.Deeds.answering`). -/

namespace GattRpc

open Connection

namespace History

/-- The messages that the bytes of the inbox have brought. -/
def messages (options : Options) (h : History) : List Json :=
  (Frame.records h.inbox).filterMap (Frame.message? options.maxFrameLen)

/-- The message that comes after `ms` was routed once `before` had been done, and came to `o`. -/
structure Routes (options : Options) (h : History) (ms : List Json) (m : Json) (before : History)
    (o : Output) : Prop where
  came : ms ++ [m] <+: h.messages options
  told : before ++ [.tell o] <+: h
  earlier : Routed ms before.deliveries
  conveyed : (Inbound.classify m).Conveyed o

/-- It holds of each act, given what was done before it. -/
def Each (P : History → Act → Prop) : History → History → Prop
  | _, [] => True
  | g, a :: h => P g a ∧ Each P (g ++ [a]) h

end History

/-- What was told of a response is right by those who waited for it. -/
def Act.Fair (before : History) : Act → Prop
  | tell (.settled x) => (∃ p r, before.Waits p ∧ p.id = r.id ∧ x = p.settle (.answered r)) ∨
    x.outcome = .failed (.timedOut x.request.id) ∨ ∃ reason, x.outcome = .failed (.cancelled reason)
  | tell (.event (.orphanResponse id)) => ∀ p, before.Waits p → p.id ≠ id
  | take _ | call _ | answer _ _ | tell _ => True

/-- Responses are told to who waits for them. -/
structure Answering (options : Options) (h : History) : Prop where
  /-- Each response is routed at one point. -/
  routed : ∀ ms m r, ms ++ [m] <+: h.messages options → Inbound.classify m = .response r →
    ∃ before o, h.Routes options ms m before o ∧
      ∀ before' o', h.Routes options ms m before' o' → before' = before ∧ o' = o
  /-- A callback is told the response that is routed while its request waits under that id. -/
  answered : ∀ ms m before o x, h.Routes options ms m before o →
    (o = .settled x ↔ ∃ p r, Inbound.classify m = .response r ∧ before.Waits p ∧ p.id = r.id ∧
      x = p.settle (.answered r))
  /-- Any other response is reported. -/
  orphaned : ∀ ms m before o id, h.Routes options ms m before o →
    (o = .event (.orphanResponse id) ↔ ∃ r, Inbound.classify m = .response r ∧ r.id = id ∧
      ∀ p, before.Waits p → p.id ≠ id)
  /-- No callback is told a response that was not routed. -/
  settled : ∀ before x, before ++ [.tell (.settled x)] <+: h →
    (∃ ms m, h.Routes options ms m before (.settled x)) ∨
      x.outcome = .failed (.timedOut x.request.id) ∨
      ∃ reason, x.outcome = .failed (.cancelled reason)
  reported : ∀ before id, before ++ [.tell (.event (.orphanResponse id))] <+: h →
    ∃ ms m, h.Routes options ms m before (.event (.orphanResponse id))
  /-- While ids do not recur, a request waits until something of its id is told or the connection
  is closed. -/
  waits : h.frames.length < UInt64.size → ∀ (before : History) (p : Pending), before <+: h →
    (before.Waits p ↔ ∃ (f g : History), before = f ++ g ∧ f.Registers p ∧
      ∀ a ∈ g, ¬ a.Frees p.id)

variable {options : Options} {u : Option Stimulus} {c c' : Connection} {f g h : History}
  {t : Standing} {ms ms' : List Json} {m : Json} {o o' : Output} {os os' : List Output}

/-! ### Messages and what they came to -/

namespace Routed

theorem of_append (r : Routed (ms ++ ms') os) :
    ∃ os₁ os₂, os = os₁ ++ os₂ ∧ Routed ms os₁ ∧ Routed ms' os₂ := by
  induction ms generalizing os with
  | nil => exact ⟨[], os, rfl, .nil, r⟩
  | cons m ms ih =>
    cases r with
    | conveyed conveyed rest =>
      obtain ⟨os₁, os₂, rfl, first, second⟩ := ih rest
      exact ⟨_ :: os₁, os₂, rfl, .conveyed conveyed first, second⟩
    | unrecognized is rest =>
      obtain ⟨os₁, os₂, rfl, first, second⟩ := ih rest
      exact ⟨os₁, os₂, rfl, .unrecognized is first, second⟩

/-- An output is what one of the messages came to. -/
theorem of_output (r : Routed ms (os ++ o :: os')) : ∃ ms₁ m, ms₁ ++ [m] <+: ms ∧ Routed ms₁ os ∧
    (Inbound.classify m).Conveyed o := by
  generalize is : os ++ o :: os' = outs at r
  induction r generalizing os with
  | nil => simp at is
  | @conveyed m ms o' outs conveyed rest ih =>
    cases os with
    | nil =>
      cases is
      exact ⟨[], m, List.prefix_append [m] ms, .nil, conveyed⟩
    | cons first os =>
      obtain ⟨rfl, rest'⟩ := List.cons.inj (show first :: (os ++ o :: os') = _ from is)
      obtain ⟨ms₁, m', came, earlier, conveyed'⟩ := ih rest'
      refine ⟨m :: ms₁, m', ?_, .conveyed conveyed earlier, conveyed'⟩
      exact (List.prefix_cons_inj m).2 came
  | @unrecognized m v ms outs unknown rest ih =>
    obtain ⟨ms₁, m', came, earlier, conveyed⟩ := ih is
    exact ⟨m :: ms₁, m', (List.prefix_cons_inj m).2 came, .unrecognized unknown earlier, conveyed⟩

theorem length_eq (r : Routed ms os) (r' : Routed ms os') : os.length = os'.length := by
  induction r generalizing os' with
  | nil =>
    cases r'
    rfl
  | conveyed conveyed rest ih =>
    cases r' with
    | conveyed conveyed' rest' => exact congrArg (· + 1) (ih rest')
    | unrecognized is =>
      rw [is] at conveyed
      cases conveyed
  | unrecognized is rest ih =>
    cases r' with
    | conveyed conveyed' =>
      rw [is] at conveyed'
      cases conveyed'
    | unrecognized is' rest' => exact ih rest'

end Routed

theorem Act.eq_tell_of_delivery? {a : Act} (is : a.delivery? = some o) : a = .tell o := by
  unfold Act.delivery? at is
  split at is
  all_goals cases is
  all_goals rfl

theorem Inbound.Conveyed.delivery? {i : Inbound} (d : i.Conveyed o) :
    Act.delivery? (.tell o) = some o := by
  cases d with
  | @answered r x outcome same =>
    obtain ⟨callback, request, y⟩ := x
    obtain rfl : y = .answered r := outcome
    rfl
  | orphan | notification => rfl

theorem Inbound.Conveyed.eq_response {i : Inbound} (d : i.Conveyed o)
    (other : ∀ method params, o ≠ .event (.notification method params)) :
    ∃ r, i = .response r := by
  cases d with
  | @answered r | @orphan r => exact ⟨r, rfl⟩
  | notification => exact (other _ _ rfl).elim

namespace History

theorem exists_told (is : h.deliveries = os ++ o :: os') :
    ∃ before : History, before ++ [.tell o] <+: h ∧ before.deliveries = os := by
  obtain ⟨f, g, rfl, first, second⟩ := List.filterMap_eq_append_iff.1 is
  obtain ⟨silent, a, g', rfl, none, delivered, -⟩ := List.filterMap_eq_cons_iff.1 second
  obtain rfl := Act.eq_tell_of_delivery? delivered
  refine ⟨f ++ silent, ⟨g', by simp⟩, ?_⟩
  rw [deliveries_append, show deliveries f = os from first,
    show deliveries silent = [] from List.filterMap_eq_nil_iff.2 none, List.append_nil]

theorem deliveries_concat (d : Act.delivery? (.tell o) = some o) :
    deliveries (h ++ [.tell o]) = deliveries h ++ [o] := by
  rw [deliveries_append]
  exact congrArg (deliveries h ++ ·) (List.filterMap_cons_some d)

/-- Of two acts one comes first, unless they are the same. -/
theorem prefix_trichotomy {a b : Act} (first : f ++ [a] <+: h) (second : g ++ [b] <+: h) :
    f ++ [a] <+: g ∨ (g = f ∧ b = a) ∨ g ++ [b] <+: f := by
  rcases List.prefix_or_prefix_of_prefix first second with early | late
  · rcases List.prefix_concat_iff.1 early with same | early
    · obtain ⟨rfl, last⟩ := List.append_inj' same rfl
      cases last
      exact .inr (.inl ⟨rfl, rfl⟩)
    · exact .inl early
  · rcases List.prefix_concat_iff.1 late with same | late
    · obtain ⟨rfl, last⟩ := List.append_inj' same rfl
      cases last
      exact .inr (.inl ⟨rfl, rfl⟩)
    · exact .inr (.inr late)

/-- What comes before a delivery tells it from all others. -/
theorem eq_of_told (first : f ++ [.tell o] <+: h) (second : g ++ [.tell o'] <+: h)
    (d : Act.delivery? (.tell o) = some o) (d' : Act.delivery? (.tell o') = some o')
    (same : f.deliveries.length = g.deliveries.length) : g = f ∧ o' = o := by
  have shorter {f g : History} {o : Output} (d : Act.delivery? (.tell o) = some o)
      (p : f ++ [.tell o] <+: g) : f.deliveries.length < g.deliveries.length := by
    obtain ⟨k, rfl⟩ := p
    rw [deliveries_append, deliveries_concat d]
    simp
  rcases prefix_trichotomy first second with before | ⟨is, told⟩ | before
  · exact absurd same (Nat.ne_of_lt (shorter d before))
  · exact ⟨is, Act.tell.inj told⟩
  · exact absurd same.symm (Nat.ne_of_lt (shorter d' before))

/-! ### Each act -/

theorem each_append {P : History → Act → Prop} :
    Each P g (f ++ h) ↔ Each P g f ∧ Each P (g ++ f) h := by
  induction f generalizing g with
  | nil => simp [Each]
  | cons a f ih =>
    rw [List.cons_append, Each, Each, ih, and_assoc, List.append_assoc]
    rfl

theorem Each.of_forall {P : History → Act → Prop} (all : ∀ a ∈ h, ∀ before, P before a) :
    Each P g h := by
  induction h generalizing g with
  | nil => trivial
  | cons a h ih =>
    obtain ⟨first, rest⟩ := List.forall_mem_cons.1 all
    exact ⟨first g, ih rest⟩

theorem Each.of_prefix {P : History → Act → Prop} {a : Act} (each : Each P [] h)
    (p : g ++ [a] <+: h) : P g a := by
  obtain ⟨k, rfl⟩ := p
  exact (each_append.1 (each_append.1 each).1).2.1

end History

/-! ### What is told of a response -/

open History

/-- Nothing was told of a response. -/
def Act.Unrouted : Act → Prop
  | tell (.settled x) =>
    x.outcome = .failed (.timedOut x.request.id) ∨ ∃ reason, x.outcome = .failed (.cancelled reason)
  | tell (.event (.orphanResponse _)) => False
  | take _ | call _ | answer _ _ | tell _ => True

theorem Act.Unrouted.fair {a : Act} {before : History} (un : a.Unrouted) : a.Fair before := by
  cases a with
  | take | call | answer => trivial
  | tell o =>
    cases o with
    | settled x => exact .inr un
    | event e =>
      cases e with
      | orphanResponse => exact un.elim
      | stateChanged | notification | frameDropped | closed => trivial
    | shown | discarded | reply => trivial

theorem Act.Neutral.unrouted {a : Act} (n : a.Neutral) : a.Unrouted := by
  cases a with
  | take | call | answer => trivial
  | tell o =>
    cases o with
    | event e =>
      cases e with
      | stateChanged => trivial
      | notification | frameDropped | orphanResponse | closed => exact n.elim
    | shown => trivial
    | settled | discarded | reply => exact n.elim

theorem History.Each.unrouted (each : Each Act.Fair f g) (un : ∀ a ∈ h, a.Unrouted) :
    Each Act.Fair f (g ++ h) :=
  each_append.2 ⟨each, .of_forall fun a ha _ => (un a ha).fair⟩

namespace Recorded

theorem fair_delivers (r : Recorded g c) (d : c.Delivers m h c') : Each Act.Fair g h := by
  cases d with
  | @answered y p is found =>
    obtain ⟨mem, same⟩ := Correlator.mem_of_find? found
    exact ⟨.inl ⟨p, y, (r.table p).1 mem, same, rfl⟩, trivial⟩
  | @orphan y is unknown =>
    exact ⟨fun p w => Correlator.find?_eq_none.1 unknown p ((r.table p).2 w), trivial⟩
  | notification is => exact ⟨trivial, trivial⟩
  | unrecognized is => exact trivial

theorem fair_deliversAll (r : Recorded g c) (d : c.DeliversAll ms h c') : Each Act.Fair g h := by
  induction d generalizing g with
  | nil => exact trivial
  | cons first rest ih => exact each_append.2 ⟨r.fair_delivers first, ih (r.delivers first)⟩

end Recorded

theorem Connection.Deeds.fair (d : Deeds options u h c) : Each Act.Fair [] h := by
  induction d with
  | start => exact trivial
  | takes x deeds ih => exact ih.unrouted (List.forall_mem_singleton.2 trivial)
  | spares deeds k ih => exact ih.unrouted fun a ha => (k.neutral a ha).unrouted
  | @closes u h c reason deeds unclosed ih =>
    exact ih.unrouted (forall_farewell (fun _ => trivial) (fun _ => .inr ⟨reason, rfl⟩)
      (fun _ => trivial) trivial trivial)
  | @receives u g h c c' ch chunk deeds ready inbox a result delivers ih =>
    have read : ∀ b ∈ Act.answer (.read ch) a ::
        ((c.spoiled chunk).map fun d => Output.event (.frameDropped d)).map .tell,
        b.Unrouted := by
      simp [Act.Unrouted]
    rw [← List.cons_append, ← List.cons_append, ← List.append_assoc, ← List.append_assoc]
    have routed := (deeds.recorded.reads a).fair_deliversAll delivers
    exact (each_append.2 ⟨ih.unrouted read, routed⟩).unrouted (List.forall_mem_singleton.2 trivial)
  | expires now deeds limited ih =>
    exact ih.unrouted (forall_expiry (fun _ => trivial) fun _ => .inl rfl)
  | registers deeds ready is a result ih =>
    refine ih.unrouted ?_
    simp only [List.forall_mem_cons]
    exact ⟨trivial, trivial, trivial, forall_registered (fun _ => trivial) trivial trivial⟩
  | refuses e deeds ih => exact ih.unrouted (forall_dropped (fun _ => trivial) trivial)
  | replies deeds answers other ih => exact ih.unrouted (List.forall_mem_singleton.2 trivial)
  | rests deeds other ih => exact ih

theorem History.Routes.output_eq {before : History} (each : Each Act.Fair [] h)
    (routes : h.Routes options ms m before o) {r : Response}
    (is : Inbound.classify m = .response r) :
    (∃ p, before.Waits p ∧ p.id = r.id ∧ o = .settled (p.settle (.answered r))) ∨
      ((∀ p, before.Waits p → p.id ≠ r.id) ∧ o = .event (.orphanResponse r.id)) := by
  have fair := each.of_prefix routes.told
  have conveyed := routes.conveyed
  rw [is] at conveyed
  cases conveyed with
  | @answered _ x outcome same =>
    rcases fair with ⟨p, r', w, named, rfl⟩ | timedOut | ⟨reason, cancelled⟩
    · cases outcome
      exact .inl ⟨p, w, named, rfl⟩
    · rw [timedOut] at outcome
      cases outcome
    · rw [cancelled] at outcome
      cases outcome
  | orphan => exact .inr ⟨fair, rfl⟩

theorem Streamed.exists_routes {before : History} (s : Streamed options h c)
    (told : before ++ [.tell o] <+: h) (d : Act.delivery? (.tell o) = some o) :
    ∃ ms m, h.Routes options ms m before o := by
  have all : Routed (h.messages options) h.deliveries := s.routed
  obtain ⟨later, split⟩ : ∃ later, h.deliveries = before.deliveries ++ o :: later := by
    obtain ⟨later, rfl⟩ := told
    refine ⟨deliveries later, ?_⟩
    rw [deliveries_append, deliveries_concat d, List.append_assoc]
    rfl
  rw [split] at all
  obtain ⟨ms, m, came, earlier, conveyed⟩ := all.of_output
  exact ⟨ms, m, came, told, earlier, conveyed⟩

theorem Connection.Deeds.answering (d : Deeds options u h c) : Answering options h where
  routed ms m r came is := by
    obtain ⟨ms', came'⟩ := came
    have all : Routed (h.messages options) h.deliveries := d.stream.routed
    rw [← came', List.append_assoc] at all
    -- The outputs are cut where the messages are.
    obtain ⟨os, os', split, earlier, later⟩ := all.of_append
    cases later with
    | unrecognized unknown =>
      rw [is] at unknown
      cases unknown
    | @conveyed _ _ o _ conveyed rest =>
      obtain ⟨before, told, rfl⟩ := exists_told split
      refine ⟨before, o, ⟨⟨ms', came'⟩, told, earlier, conveyed⟩, fun before' o' other => ?_⟩
      exact eq_of_told told other.told conveyed.delivery? other.conveyed.delivery?
        (earlier.length_eq other.earlier)
  answered ms m before o x routes := by
    constructor
    · rintro rfl
      obtain ⟨r, is⟩ := routes.conveyed.eq_response nofun
      rcases routes.output_eq d.fair is with ⟨p, w, same, told⟩ | ⟨-, told⟩
      · cases told
        exact ⟨p, r, is, w, same, rfl⟩
      · cases told
    · rintro ⟨p, r, is, w, same, rfl⟩
      rcases routes.output_eq d.fair is with ⟨q, w', same', told⟩ | ⟨none, -⟩
      · rw [told, w.unique w' (same.trans same'.symm)]
      · exact (none p w same).elim
  orphaned ms m before o id routes := by
    constructor
    · rintro rfl
      obtain ⟨r, is⟩ := routes.conveyed.eq_response nofun
      rcases routes.output_eq d.fair is with ⟨p, w, same, told⟩ | ⟨none, told⟩
      · cases told
      · cases told
        exact ⟨r, is, rfl, none⟩
    · rintro ⟨r, is, rfl, none⟩
      rcases routes.output_eq d.fair is with ⟨q, w', same', told⟩ | ⟨-, told⟩
      · exact (none q w' same').elim
      · exact told
  settled before x told := by
    rcases d.fair.of_prefix told with ⟨p, r, w, same, rfl⟩ | failed
    · exact .inl (d.stream.exists_routes told rfl)
    · exact .inr failed
  reported before id told := d.stream.exists_routes told rfl
  waits room before p early := by
    obtain ⟨later, rfl⟩ := early
    refine waits_iff (Nat.lt_of_le_of_lt ?_ room)
    rw [frames_append, List.length_append]
    exact Nat.le_add_right ..

end GattRpc
