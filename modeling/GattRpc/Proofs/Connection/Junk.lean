import GattRpc.Proofs.Connection.Alike
import GattRpc.Proofs.Connection.Waiting

/-! # Junk on the inbox

Two runs are given the same, but in the second some records more come along with the bytes of the
inbox: records that are no messages, and messages that nobody waits for. Then both runs do the same,
and what is told of such records and messages is all that tells them apart
(`Connection.Run.indistinct`). -/

namespace GattRpc

open Connection History

/-- A record of which nothing comes while these ids are awaited. -/
inductive Frame.Junk (limit : Nat) (awaited : RequestId → Prop) (r : List UInt8) : Prop
  | blank (is : Frame.Blank r)
  | oversized (large : limit < r.length)
  | malformed {f : Json.Fault} (is : Json.parse r = .error f)
  | unrecognized {m v : Json} (read : Json.parse r = .ok m)
    (is : Inbound.classify m = .unrecognized v)
  | notification {m params : Json} {method : String} (read : Json.parse r = .ok m)
    (is : Inbound.classify m = .notification method params)
  | orphan {m : Json} {y : Response} (read : Json.parse r = .ok m)
    (is : Inbound.classify m = .response y) (unawaited : ¬ awaited y.id)

/-- The same records with junk among them. What is awaited changes with each message. -/
inductive Frame.Padded (limit : Nat) :
    (RequestId → Prop) → List (List UInt8) → List (List UInt8) → Prop
  | nil {awaited : RequestId → Prop} : Padded limit awaited [] []
  | kept {awaited : RequestId → Prop} {r : List UInt8} {rs rs' : List (List UInt8)}
    (rest : Padded limit ((Frame.message? limit r).elim awaited (awaitedAfter awaited)) rs rs') :
    Padded limit awaited (r :: rs) (r :: rs')
  | junk {awaited : RequestId → Prop} {r : List UInt8} {rs rs' : List (List UInt8)}
    (junk : Frame.Junk limit awaited r) (rest : Padded limit awaited rs rs') :
    Padded limit awaited rs (r :: rs')

/-- After `g` and `g'` the link answers a call alike. If it gives bytes of the inbox, then they end
the same records, with junk among them after `g'`. -/
inductive Padding (options : Options) (g g' : History) : (l : LinkCall) → LinkAnswer l →
    LinkAnswer l → Prop
  | same {l : LinkCall} {a : LinkAnswer l} (other : (Act.answer l a).chunk? = none) :
    Padding options g g' l a a
  | padded {ch : Characteristic} {time : Nat} {chunk chunk' : List UInt8}
    (inbox : ch.uuid = inboxUuid)
    (padded : Frame.Padded options.maxFrameLen (fun id => ∃ p, g'.Waits p ∧ p.id = id)
      (Frame.records (Frame.remainder g.inbox ++ chunk))
      (Frame.records (Frame.remainder g'.inbox ++ chunk'))) :
    Padding options g g' (.read ch) ⟨time, .ok chunk⟩ ⟨time, .ok chunk'⟩

@[simp] def Act.stimulus? : Act → Option Stimulus
  | take x => some x
  | _ => none

/-- What was reacted to. -/
def History.stimuli (h : History) : List Stimulus := h.filterMap Act.stimulus?

/-- The runs are given the same, but for junk on the inbox of the second. An answer depends on which
call it answers, and on how many were answered before. -/
structure Parallel (options : Options) (h h' : History) : Prop where
  stimuli : h'.stimuli = h.stimuli
  answers : h'.exchanges.length = h.exchanges.length
  padding : ∀ g g' l a a', g ++ [.answer l a] <+: h → g' ++ [.answer l a'] <+: h' →
    g'.exchanges.length = g.exchanges.length → Padding options g g' l a a'

/-- Both await a stimulus, or an answer to the same call, or both are over. -/
def Standing.Matches : Standing → Standing → Prop
  | .idle _, .idle _ | .ended _, .ended _ => True
  | .calling _ l _, .calling _ l' _ => l = l'
  | _, _ => False

/-- The same was done, up to what is told of junk. -/
structure Indistinct (h h' : History) (t t' : Standing) : Prop where
  /-- All else is done in the same order. -/
  plain : h'.plain = h.plain
  states : h'.states = h.states
  calls : h'.calls = h.calls
  frames : h'.frames = h.frames
  ids : h'.ids = h.ids
  settlements : h'.settlements = h.settlements
  discards : h'.discards = h.discards
  replies : h'.replies = h.replies
  status : t'.connection.status = t.connection.status
  outstanding : t'.connection.correlator = t.connection.correlator
  /-- Only the bytes that are held of the inbox may differ. -/
  connection : t.connection.Twin t'.connection
  /-- If the same is left of the inbox, then only the count of dropped records may differ. -/
  held : Frame.remainder h'.inbox = Frame.remainder h.inbox →
    t'.connection = { t.connection with accumulator :=
      { t.connection.accumulator with dropped := t'.connection.accumulator.dropped } }
  standing : t.Matches t'

variable {options : Options} {c c' : Connection} {g g' h h' : History} {t t' : Standing}

/-! ### Records and messages -/

namespace Frame

variable {limit : Nat} {awaited : RequestId → Prop} {r : List UInt8} {rs rs' : List (List UInt8)}

theorem Junk.stray {m : Json} (junk : Junk limit awaited r) (is : message? limit r = some m) :
    Stray awaited m := by
  unfold message? at is
  split at is
  next kept =>
    have read (m' : Json) (ok : Json.parse r = .ok m') : m' = m := by
      rw [ok] at is
      exact Option.some.inj is
    intro y response
    cases junk with
    | blank blank => exact (kept.2 blank).elim
    | oversized large => exact (Nat.not_le.2 large kept.1).elim
    | malformed fault =>
      rw [fault] at is
      cases is
    | unrecognized ok other | notification ok other =>
      rw [read _ ok, response] at other
      cases other
    | orphan ok other unawaited =>
      rw [read _ ok, response] at other
      cases other
      exact unawaited
  next => cases is

theorem Padded.strewn (p : Padded limit awaited rs rs') :
    Strewn awaited (rs.filterMap (message? limit)) (rs'.filterMap (message? limit)) := by
  induction p with
  | nil => exact .nil
  | @kept awaited r rs rs' rest ih =>
    cases is : message? limit r with
    | none =>
      rw [is] at ih
      rw [List.filterMap_cons_none is, List.filterMap_cons_none is]
      exact ih
    | some m =>
      rw [is] at ih
      rw [List.filterMap_cons_some is, List.filterMap_cons_some is]
      exact .kept ih
  | @junk awaited r rs rs' junk rest ih =>
    cases is : message? limit r with
    | none =>
      rw [List.filterMap_cons_none is]
      exact ih
    | some m =>
      rw [List.filterMap_cons_some is]
      exact .stray (junk.stray is) ih

end Frame

/-- It is enough to put records of junk between the records that the bytes end. -/
theorem Padding.of_framed {ch : Characteristic} {time : Nat} {rs rs' : List (List UInt8)}
    {chunk chunk' p : List UInt8} (inbox : ch.uuid = inboxUuid)
    (padded : Frame.Padded options.maxFrameLen (fun id => ∃ p, g'.Waits p ∧ p.id = id) rs rs')
    (records : ∀ r ∈ rs ++ rs', Frame.delimiter ∉ r) (unfinished : Frame.delimiter ∉ p)
    (first : Frame.remainder g.inbox ++ chunk = rs.flatMap (· ++ [Frame.delimiter]) ++ p)
    (second : Frame.remainder g'.inbox ++ chunk' = rs'.flatMap (· ++ [Frame.delimiter]) ++ p) :
    Padding options g g' (.read ch) ⟨time, .ok chunk⟩ ⟨time, .ok chunk'⟩ := by
  rw [List.forall_mem_append] at records
  refine .padded inbox ?_
  rwa [first, second, Frame.records_framed records.1, Frame.records_framed records.2,
    Frame.records_of_not_mem unfinished, List.append_nil, List.append_nil]

/-! ### Standing alike -/

/-- Both stand alike, and go on alike when they are fed alike. -/
inductive Standing.Alike : Standing → Standing → Prop
  | idle {c c' : Connection} (twin : c.Twin c') : Alike (.idle c) (.idle c')
  | calling {c c' : Connection} {l : LinkCall} {resume resume' : LinkAnswer l → Progress Unit}
    (twin : c.Twin c') (go : ∀ a a', Feeds c c' l a a' → (resume a).Alike (resume' a')) :
    Alike (.calling c l resume) (.calling c' l resume')
  | ended {c c' : Connection} (twin : c.Twin c') : Alike (.ended c) (.ended c')

theorem Standing.Alike.twin (k : t.Alike t') : t.connection.Twin t'.connection := by
  cases k with
  | idle twin | calling twin | ended twin => exact twin

theorem Standing.Alike.after {x : Stimulus} (k : t.Alike t') : (t.after x).Alike (t'.after x) := by
  cases k with
  | idle twin =>
    cases x with
    | clientsGone => exact .ended twin
    | command | linkLost | poll | sweep => exact .idle twin
  | calling twin go => exact .calling twin go
  | ended twin => exact .ended twin

theorem Progress.Alike.standing {p p' : Progress Unit} (k : p.Alike p') :
    p.standing.Alike p'.standing ∧ p'.acts.plain = p.acts.plain := by
  cases k with
  | done twin told => exact ⟨.idle twin, told.symm⟩
  | crashed twin told => exact ⟨.ended twin, told.symm⟩
  | waiting twin told go =>
    refine ⟨.calling twin go, ?_⟩
    rw [acts, acts, plain_append, plain_append, told]

theorem Padding.feeds {l : LinkCall} {a a' : LinkAnswer l} (p : Padding options g g' l a a')
    (s : Streamed options g c) (s' : Streamed options g' c') (r' : Recorded g' c')
    (unclosed : c.state ≠ .closed) (unclosed' : c'.state ≠ .closed) : Feeds c c' l a a' := by
  cases p with
  | same other => exact .same other
  | padded inbox padded =>
    have held := s.held
    have held' := s'.held
    rw [if_neg unclosed] at held
    rw [if_neg unclosed'] at held'
    refine .strewn inbox ?_
    -- Each run has held what its stream had not ended.
    rw [(Connection.feeds _ held (Frame.eq_framed g.inbox).2.1).1,
      (Connection.feeds _ held' (Frame.eq_framed g'.inbox).2.1).1]
    have holds : c'.correlator.Holds = fun id => ∃ p, g'.Waits p ∧ p.id = id := by
      funext id
      exact propext (exists_congr fun p => and_congr_left' (r'.table p))
    rw [holds]
    exact padded.strewn

theorem Padding.plain {l : LinkCall} {a a' : LinkAnswer l} (p : Padding options g g' l a a') :
    History.plain [.answer l a'] = History.plain [.answer l a] := by
  cases p with
  | same => rfl
  | @padded ch time chunk chunk' inbox =>
    have bytes (chunk : List UInt8) :
        History.plain [.answer (.read ch) ⟨time, .ok chunk⟩] = [] := by
      rw [History.plain, List.filter_cons_of_neg, List.filter_nil]
      simp [Act.isPlain, inbox]
    rw [bytes, bytes]

/-! ### Steps -/

namespace History

/-- How often the task was given something: a stimulus, or an answer of the link. -/
def given (h : History) : Nat := h.stimuli.length + h.exchanges.length

theorem plain_cons {a : Act} : plain (a :: h) = plain [a] ++ plain h := plain_append (g := [a])

theorem stimuli_append : stimuli (g ++ h) = stimuli g ++ stimuli h := List.filterMap_append

theorem stimuli_cons {a : Act} : stimuli (a :: h) = stimuli [a] ++ stimuli h :=
  stimuli_append (g := [a])

theorem given_append : given (g ++ h) = given g + given h := by
  rw [given, stimuli_append, exchanges_append, List.length_append, List.length_append, given, given]
  omega

theorem given_eq (stimuli : h'.stimuli = h.stimuli)
    (answers : h'.exchanges.length = h.exchanges.length) : h'.given = h.given := by
  rw [given, given, stimuli, answers]

end History

namespace Progress

theorem stimuli_acts {p : Progress Unit} : stimuli p.acts = [] := by
  have told {out : List Output} : stimuli (out.map .tell) = [] := by
    induction out with
    | nil => rfl
    | cons o out ih => exact ih
  cases p with
  | done | crashed => exact told
  | waiting c out l resume =>
    rw [acts, stimuli_append, told]
    rfl

theorem exchanges_acts {p : Progress Unit} : p.acts.exchanges = [] := by
  cases p <;> simp [acts]

end Progress

theorem Standing.Step.given {acts : History} (step : t.Step acts t') : acts.given = 1 := by
  cases step with
  | take | answer =>
    rw [History.given, stimuli_cons, exchanges_cons, Progress.stimuli_acts, Progress.exchanges_acts]
    rfl

namespace History

theorem prefix_of_quiet {l : LinkCall} {a : LinkAnswer l} {acts : History}
    (quiet : acts.exchanges = []) (first : g ++ [.answer l a] <+: h ++ acts) :
    g ++ [.answer l a] <+: h := by
  rcases List.prefix_or_prefix_of_prefix first (List.prefix_append h acts) with first | whole
  · exact first
  rcases List.prefix_concat_iff.1 whole with rfl | ⟨more, rfl⟩
  · exact List.prefix_rfl
  · -- The answer would be among the other acts.
    rw [List.append_assoc, List.prefix_append_right_inj] at first
    have mem : Act.answer l a ∈ acts := first.subset (by simp)
    cases List.filterMap_eq_nil_iff.1 quiet _ mem

theorem exchanges_lt {l : LinkCall} {a : LinkAnswer l} (first : g ++ [.answer l a] <+: h) :
    g.exchanges.length < h.exchanges.length := by
  have le := (first.filterMap Act.exchange?).length_le
  rw [List.filterMap_append, List.length_append] at le
  exact le

end History

namespace Parallel

variable {acts acts' : History}

theorem given (p : Parallel options h h') : h'.given = h.given := given_eq p.stimuli p.answers

theorem taken {x x' : Stimulus} (p : Parallel options (h ++ acts) (h' ++ acts'))
    (stimuli : h'.stimuli = h.stimuli) (first : .take x ∈ acts.head?)
    (first' : .take x' ∈ acts'.head?) : x' = x := by
  obtain ⟨more, rfl⟩ := List.head?_eq_some_iff.1 first
  obtain ⟨more', rfl⟩ := List.head?_eq_some_iff.1 first'
  have same := p.stimuli
  rw [stimuli_append, stimuli_append, stimuli] at same
  exact (List.cons.inj (List.append_cancel_left same)).1

theorem answered {l : LinkCall} {a a' : LinkAnswer l}
    (p : Parallel options (h ++ acts) (h' ++ acts'))
    (answers : h'.exchanges.length = h.exchanges.length) (first : .answer l a ∈ acts.head?)
    (first' : .answer l a' ∈ acts'.head?) : Padding options h h' l a a' := by
  obtain ⟨more, rfl⟩ := List.head?_eq_some_iff.1 first
  obtain ⟨more', rfl⟩ := List.head?_eq_some_iff.1 first'
  exact p.padding h h' l a a' ⟨more, List.append_cons .. ▸ rfl⟩ ⟨more', List.append_cons .. ▸ rfl⟩
    answers

theorem nil : Parallel options [] [] :=
  ⟨rfl, rfl, fun g g' l a a' first => by simp at first⟩

/-- Each run may go on as it does, as long as the link answers nothing. -/
theorem append (p : Parallel options h h') (stimuli : acts'.stimuli = acts.stimuli)
    (quiet : acts.exchanges = []) (quiet' : acts'.exchanges = []) :
    Parallel options (h ++ acts) (h' ++ acts') := by
  refine ⟨?_, ?_, fun g g' l a a' first first' answers => ?_⟩
  · rw [stimuli_append, stimuli_append, p.stimuli, stimuli]
  · rw [exchanges_append, exchanges_append, quiet, quiet', List.append_nil, List.append_nil,
      p.answers]
  · exact p.padding g g' l a a' (prefix_of_quiet quiet first)
      (prefix_of_quiet quiet' first') answers

theorem answer {l : LinkCall} {a a' : LinkAnswer l} (p : Parallel options h h')
    (padding : Padding options h h' l a a') :
    Parallel options (h ++ [.answer l a]) (h' ++ [.answer l a']) := by
  refine ⟨?_, ?_, fun g g' l b b' first first' answers => ?_⟩
  · rw [stimuli_append, stimuli_append, p.stimuli]
    rfl
  · simp [p.answers]
  · rcases List.prefix_concat_iff.1 first with last | first <;>
      rcases List.prefix_concat_iff.1 first' with last' | first'
    · obtain ⟨rfl, is⟩ := List.append_inj' last rfl
      obtain ⟨rfl, is'⟩ := List.append_inj' last' rfl
      cases is
      cases is'
      exact padding
    · obtain ⟨rfl, -⟩ := List.append_inj' last rfl
      have lt := exchanges_lt first'
      have level := p.answers
      omega
    · obtain ⟨rfl, -⟩ := List.append_inj' last' rfl
      have lt := exchanges_lt first
      have level := p.answers
      omega
    · exact p.padding g g' _ b b' first first' answers

theorem refl (silent : ∀ a ∈ h, a.chunk? = none) : Parallel options h h := by
  induction h using List.reverseRecOn with
  | nil => exact .nil
  | append_singleton h a ih =>
    rw [List.forall_mem_append] at silent
    have p := ih silent.1
    cases a with
    | answer l x => exact p.answer (.same (silent.2 _ (List.mem_singleton_self _)))
    | take | call | tell => exact p.append rfl rfl rfl

end Parallel

namespace Connection.Run

theorem uuids (run : Run options h (.idle c)) : ∀ channel ∈ c.channel,
    channel.inbox.uuid = inboxUuid ∧ channel.pollSignal.uuid = pollSignalUuid := by
  intro channel inUse
  have rests : Resting options h c := run.performs
  have stage := rests.steady.stage
  rw [show c.channel = some channel from inUse] at stage
  exact uuids_of_stage stage

theorem unclosed (run : Run options h t) (calling : t.isCalling = true) :
    t.connection.state ≠ .closed := by
  have k := run.performs
  cases t with
  | calling c l resume =>
    obtain ⟨⟨x, -, -, unclosed⟩, -⟩ := k
    exact unclosed nofun
  | idle | ended => cases calling

end Connection.Run

/-- Runs that stand alike and are given the same stand alike again, and have done the same. -/
theorem Standing.Alike.step {acts acts' : History} {t₁ t₁' : Standing} (k : t.Alike t')
    (run : Connection.Run options h t) (run' : Connection.Run options h' t')
    (step : t.Step acts t₁) (step' : t'.Step acts' t₁')
    (taken : ∀ x x', .take x ∈ acts.head? → .take x' ∈ acts'.head? → x' = x)
    (answered : ∀ l a a', .answer l a ∈ acts.head? → .answer l a' ∈ acts'.head? →
      Padding options h h' l a a') :
    t₁.Alike t₁' ∧ acts'.plain = acts.plain ∧ acts'.stimuli = acts.stimuli ∧
      acts'.exchanges.length = acts.exchanges.length := by
  cases k with
  | idle twin =>
    cases step with
    | @take c x awaits =>
      cases step' with
      | @take c' x' awaits' =>
        obtain rfl := taken x x' rfl rfl
        have alike := (alike_handle (x := x') twin run.uuids).standing
        refine ⟨alike.1.after, ?_, ?_, ?_⟩
        · rw [plain_cons, alike.2, ← plain_cons]
        · exact congrArg (x' :: ·) (Progress.stimuli_acts.trans Progress.stimuli_acts.symm)
        · rw [exchanges_cons, exchanges_cons, Progress.exchanges_acts, Progress.exchanges_acts]
  | calling twin go =>
    cases step with
    | answer a =>
      cases step' with
      | answer a' =>
        obtain ⟨u, d⟩ := run.exists_deeds
        obtain ⟨u', d'⟩ := run'.exists_deeds
        have padding := answered _ a a' rfl rfl
        have feeds := padding.feeds d.stream d'.stream d'.recorded (run.unclosed rfl)
          (run'.unclosed rfl)
        have alike := (go a a' feeds).standing
        refine ⟨alike.1, ?_, ?_, ?_⟩
        · rw [plain_cons, alike.2, padding.plain, ← plain_cons]
        · exact Progress.stimuli_acts.trans Progress.stimuli_acts.symm
        · rw [exchanges_cons, exchanges_cons, Progress.exchanges_acts, Progress.exchanges_acts]
          rfl
  | ended twin => cases step

/-! ### Runs -/

namespace Standing.Path

theorem cons {acts : History} {t₁ : Standing} (step : t.Step acts t₁) (path : t₁.Path h t') :
    t.Path (acts ++ h) t' := by
  induction path with
  | refl =>
    rw [List.append_nil]
    exact Path.refl.step step
  | step path last ih =>
    rw [← List.append_assoc]
    exact ih.step last

theorem head (path : t.Path h t') : (h = [] ∧ t' = t) ∨
    ∃ acts rest t₁, h = acts ++ rest ∧ t.Step acts t₁ ∧ t₁.Path rest t' := by
  induction path with
  | refl => exact .inl ⟨rfl, rfl⟩
  | @step t' t'' h acts path last ih =>
    rcases ih with ⟨rfl, rfl⟩ | ⟨first, rest, t₁, rfl, step, path⟩
    · exact .inr ⟨acts, [], t'', (List.append_nil _).symm, last, .refl⟩
    · exact .inr ⟨first, rest ++ acts, t₁, List.append_assoc .., step, path.step last⟩

end Standing.Path

/-- The second run stood alike once it had been given as much, and went on from there. -/
inductive Abreast (options : Options) (h : History) (t : Standing) (h' : History) (t' : Standing) :
    Prop
  | intro {early rest : History} {t₁ : Standing} (whole : early ++ rest = h')
    (run : Connection.Run options early t₁) (path : t₁.Path rest t') (alike : t.Alike t₁)
    (plain : early.plain = h.plain) (stimuli : early.stimuli = h.stimuli)
    (answers : early.exchanges.length = h.exchanges.length)

namespace Connection.Run

theorem path (run : Run options h t) : (Standing.idle (.new options)).Path h t := by
  induction run with
  | start => exact .refl
  | step run step ih => exact ih.step step

/-- Given the same, the second run keeps abreast of the first. -/
theorem abreast (run : Run options h t) (run' : Run options h' t') {rest : History}
    {last : Standing} (path : t.Path rest last) (parallel : Parallel options (h ++ rest) h') :
    Abreast options h t h' t' := by
  -- The induction cuts the first run short, so what is left of it has to vary.
  induction run generalizing rest with
  | start => exact ⟨rfl, .start, run'.path, .idle ⟨_, rfl⟩, rfl, rfl, rfl⟩
  | @step h acts t t₁ run step ih =>
    rw [List.append_assoc] at parallel
    obtain @⟨g, rest', t₂, rfl, early, path', alike, plain, stimuli, answers⟩ :=
      ih (path.cons step) parallel
    rcases path'.head with ⟨rfl, rfl⟩ | ⟨acts', rest', t₃, rfl, step', path'⟩
    · -- The first run was given one thing more.
      have given := parallel.given
      rw [List.append_nil, given_append, given_append, step.given, given_eq stimuli answers]
        at given
      omega
    have next := alike.step run early step step'
      (fun x x' first first' => parallel.taken stimuli
        (List.mem_head?_append_of_mem_head? first) (List.mem_head?_append_of_mem_head? first'))
      (fun l a a' first first' => parallel.answered answers
        (List.mem_head?_append_of_mem_head? first) (List.mem_head?_append_of_mem_head? first'))
    obtain ⟨alike, plain', stimuli', answers'⟩ := next
    refine ⟨List.append_assoc .., early.step step', path', alike, ?_, ?_, ?_⟩
    · rw [plain_append, plain_append, plain, plain']
    · rw [stimuli_append, stimuli_append, stimuli, stimuli']
    · rw [exchanges_append, exchanges_append, List.length_append, List.length_append, answers,
        answers']

end Connection.Run

theorem Act.of_not_plain {a : Act} (diagnostic : a.isPlain = false) :
    (∃ l x, a = .answer l x) ∨ (∃ d, a = .tell (.event (.frameDropped d))) ∨
      (∃ id, a = .tell (.event (.orphanResponse id))) ∨
      ∃ method params, a = .tell (.event (.notification method params)) := by
  cases a with
  | answer l x => exact .inl ⟨l, x, rfl⟩
  | take | call => cases diagnostic
  | tell o =>
    cases o with
    | event e =>
      cases e with
      | frameDropped d => exact .inr (.inl ⟨d, rfl⟩)
      | orphanResponse id => exact .inr (.inr (.inl ⟨id, rfl⟩))
      | notification method params => exact .inr (.inr (.inr ⟨method, params, rfl⟩))
      | _ => cases diagnostic
    | _ => cases diagnostic

theorem History.filterMap_eq_of_plain {α : Type} {f : Act → Option α} (same : h'.plain = h.plain)
    (answer : ∀ l x, f (.answer l x) = none := by exact fun _ _ => rfl)
    (dropped : ∀ d, f (.tell (.event (.frameDropped d))) = none := by exact fun _ => rfl)
    (orphan : ∀ id, f (.tell (.event (.orphanResponse id))) = none := by exact fun _ => rfl)
    (notified : ∀ method params, f (.tell (.event (.notification method params))) = none :=
      by exact fun _ _ => rfl) : h'.filterMap f = h.filterMap f := by
  have all (h : History) : h.plain.filterMap f = h.filterMap f := by
    rw [plain, List.filterMap_filter]
    refine List.filterMap_congr fun a _ => ?_
    split
    next => rfl
    next diagnostic =>
      rcases Act.of_not_plain (eq_false_of_ne_true diagnostic) with
        ⟨l, x, rfl⟩ | ⟨d, rfl⟩ | ⟨id, rfl⟩ | ⟨method, params, rfl⟩
      · exact (answer l x).symm
      · exact (dropped d).symm
      · exact (orphan id).symm
      · exact (notified method params).symm
  rw [← all h', ← all h, same]

theorem Standing.Alike.matches (k : t.Alike t') : t.Matches t' := by
  cases k with
  | idle | ended => trivial
  | calling => rfl

/-- Junk on the inbox leaves no trace but what is told of it. -/
theorem Connection.Run.indistinct (run : Run options h t) (run' : Run options h' t')
    (parallel : Parallel options h h') : Indistinct h h' t t' := by
  have parallel' : Parallel options (h ++ []) h' := by rwa [List.append_nil]
  obtain @⟨g, rest, t₁, rfl, early, path, alike, plain, stimuli, answers⟩ :=
    run.abreast run' .refl parallel'
  rcases path.head with ⟨rfl, rfl⟩ | ⟨acts, rest, t₂, rfl, step, -⟩
  · rw [List.append_nil] at run' ⊢
    obtain ⟨a, twin⟩ := alike.twin
    refine ⟨plain, filterMap_eq_of_plain plain, filterMap_eq_of_plain plain,
      filterMap_eq_of_plain plain, ?_, filterMap_eq_of_plain plain, filterMap_eq_of_plain plain,
      filterMap_eq_of_plain plain, by rw [twin], by rw [twin], ⟨a, twin⟩, ?_, alike.matches⟩
    · rw [ids, sends, filterMap_eq_of_plain plain, ids, sends]
    · intro same
      have state : t'.connection.state = t.connection.state := by rw [twin]
      obtain ⟨u, d⟩ := run.exists_deeds
      obtain ⟨u', d'⟩ := run'.exists_deeds
      have held : t'.connection.accumulator = { t.connection.accumulator with
          dropped := t'.connection.accumulator.dropped } := by
        rw [d'.stream.held, d.stream.held, state, same, Accumulator.dropped_holding]
        exact Accumulator.holding_eq
      rw [← held, twin]
  · -- The second run was not given more.
    have given := parallel.given
    rw [given_append, given_append, step.given, given_eq stimuli answers] at given
    omega

/-- A connection is made, and a signal makes it read the inbox. -/
def Connection.sampleReading : History :=
  sampleHandshake ++ [.take (.poll (.signal [0, 0, 0, 1])), .call (.read sampleChannel.inbox)]

/-- Two runs that read the same, but for a blank record and one that is too large. -/
theorem Connection.Run.indistinct_junk : ∃ h h' t t', Run (sampleOptions 1) h t ∧
    Run (sampleOptions 1) h' t' ∧ h.inbox = [0x41] ∧
    h'.inbox = [0x20, Frame.delimiter, 0x42, 0x43, Frame.delimiter, 0x41] ∧
    Parallel (sampleOptions 1) h h' ∧ Indistinct h h' t t' ∧ h.drops = [] ∧
    h'.drops = [.oversized 2] := by
  have reading : Run (sampleOptions 1) sampleReading _ := (sample 1).step (.take ⟨rfl, rfl⟩)
  have first := reading.step (.answer (l := .read sampleChannel.inbox) ⟨0, .ok [0x41]⟩)
  have second := reading.step (.answer (l := .read sampleChannel.inbox)
    ⟨0, .ok [0x20, Frame.delimiter, 0x42, 0x43, Frame.delimiter, 0x41]⟩)
  have padding : Padding (sampleOptions 1) sampleReading sampleReading
      (.read sampleChannel.inbox) ⟨0, .ok [0x41]⟩
      ⟨0, .ok [0x20, Frame.delimiter, 0x42, 0x43, Frame.delimiter, 0x41]⟩ :=
    .of_framed rfl (.junk (.blank (List.forall_mem_singleton.2 List.mem_cons_self))
      (.junk (r := [0x42, 0x43]) (.oversized (by decide)) .nil)) (by decide) (by decide) rfl rfl
  have answered := (Parallel.refl (List.filterMap_eq_nil_iff.1 rfl)).answer padding
  let shown : Act := .tell (.shown (sampleReady 1).status)
  have parallel : Parallel (sampleOptions 1) (_ ++ [shown])
      (_ ++ [.tell (.event (.frameDropped (.oversized 2))), shown]) := answered.append rfl rfl rfl
  rw [List.append_assoc, List.append_assoc] at parallel
  exact ⟨_, _, _, _, first, second, rfl, rfl, parallel, first.indistinct second parallel, rfl, rfl⟩

end GattRpc
