import GattRpc.Proofs.Connection.Expiry

/-! # What a reaction takes

On a stimulus a connection calls the link four times at most. No request becomes outstanding unless
one is sent, and whether ages are checked depends on nothing but the state
(`Connection.Reacts.calls_le`, `Connection.Reacts.light`). It never goes back to an earlier state,
and the end of the link closes it. -/

namespace GattRpc

namespace Connection

variable {c c' c'' : Connection} {g h : History} {x : Stimulus}
  {m n now timeout : Nat} {channel : Channel} {p : Pending}

/-- The link is called so often at most, and no request becomes outstanding. -/
structure Light (n : Nat) (c : Connection) (h : History) (c' : Connection) : Prop where
  calls : h.calls.length ≤ n
  sweeping : c'.sweeping = c.sweeping
  outstanding : c'.correlator.outstanding ⊆ c.correlator.outstanding

namespace Light

theorem refl : Light 0 c [] c := ⟨Nat.le_refl 0, rfl, List.Subset.refl _⟩

theorem mono (k : Light m c h c') (le : m ≤ n) : Light n c h c' :=
  { k with calls := Nat.le_trans k.calls le }

theorem trans (first : Light m c g c') (rest : Light n c' h c'') :
    Light (m + n) c (g ++ h) c'' where
  calls := by
    rw [History.calls_append, List.length_append]
    exact Nat.add_le_add first.calls rest.calls
  sweeping := rest.sweeping.trans first.sweeping
  outstanding := List.Subset.trans rest.outstanding first.outstanding

theorem silent {a : Act} (k : Light n c h c') (none : a.call? = none) : Light n c (a :: h) c' where
  calls := by
    rw [History.calls_cons, none]
    exact k.calls
  sweeping := k.sweeping
  outstanding := k.outstanding

theorem call {l : LinkCall} {a : LinkAnswer l} (k : Light n c h c') :
    Light (n + 1) c (.call l :: .answer l a :: h) c' where
  calls := Nat.succ_le_succ k.calls
  sweeping := k.sweeping
  outstanding := k.outstanding

theorem tells {out : List Output} (k : Light n c [] c') : Light n c (out.map .tell) c' where
  calls := by
    rw [History.calls_tell]
    exact Nat.zero_le _
  sweeping := k.sweeping
  outstanding := k.outstanding

end Light

/-! ### What the handlers take -/

theorem Shuts.light {reason : CloseReason} (s : c.Shuts reason h c') : Light 1 c h c' := by
  cases s with
  | already => exact Light.refl.mono (Nat.zero_le _)
  | now _ hangsUp =>
    refine ⟨?_, rfl, ?_⟩
    · rw [History.calls_append, History.calls_tell]
      cases hangsUp <;> simp
    · rw [closed_correlator, Correlator.cancelAll_outstanding]
      exact List.nil_subset _

theorem Shuts.light_blame {e : LinkError} {reason : CloseReason}
    (s : (c.blame e).Shuts reason h c') :
    Light 1 c (.tell (.shown (c.blame e).status) :: h) c' :=
  have blamed : Light 0 c [.tell (.shown (c.blame e).status)] (c.blame e) :=
    ⟨Nat.le_refl 0, rfl, List.Subset.refl _⟩
  (blamed.trans s.light).mono (by decide)

theorem NotesError.light {e : LinkError} (k : c.NotesError e h c') : Light 1 c h c' := by
  cases k with
  | harmless => exact ⟨Nat.zero_le _, rfl, List.Subset.refl _⟩
  | fatal _ shuts => exact shuts.light_blame

theorem StartsPolling.light {r : Except LinkError Unit} (k : c.StartsPolling channel h r) :
    Light 1 c h c := by
  cases k with
  | notify => exact Light.refl.call
  | interval => exact Light.refl.mono (Nat.zero_le _)

theorem FindsService.light {r : Except RpcError Unit} (k : c.FindsService h r c') :
    Light 3 c h c' := by
  cases k with
  | lost _ shuts | unusable _ _ shuts => exact shuts.light_blame.call.mono (by decide)
  | unpolled _ _ starts shuts => exact (starts.light.trans shuts.light_blame).call
  | @found a services channel start _ _ starts =>
    have opened : Light 0 c
        [.tell (.shown (c.opened channel).status), .tell (.event (.stateChanged .ready))]
        (c.opened channel) := ⟨Nat.le_refl 0, rfl, List.Subset.refl _⟩
    exact (starts.light.trans opened).call.mono (by decide)

theorem Establishes.light {r : Except RpcError Unit} (k : c.Establishes h r c') :
    Light 4 c h c' := by
  have enters {n : Nat} {h : History} (k : Light n (c.enter .connecting) h c') :
      Light n c (.tell (.shown (c.enter .connecting).status) ::
        .tell (.event (.stateChanged .connecting)) :: h) c' :=
    ⟨k.calls, k.sweeping, k.outstanding⟩
  cases k with
  | already | refused => exact Light.refl.mono (Nat.zero_le _)
  | unreachable _ _ shuts => exact (enters shuts.light_blame.call).mono (by decide)
  | @connected a peer h r c' _ _ finds =>
    have linked : Light 0 (c.enter .connecting)
        [.tell (.shown { (c.enter .connecting).status with peer := some peer }),
          .tell (.shown ((c.enter .connecting).linked peer).status),
          .tell (.event (.stateChanged .discovering))] ((c.enter .connecting).linked peer) :=
      ⟨Nat.le_refl 0, rfl, List.Subset.refl _⟩
    exact enters ((linked.trans finds.light).call.mono (by decide))

theorem Delivers.light {m : Json} (k : c.Delivers m h c') : Light 0 c h c' := by
  cases k with
  | answered => exact ⟨Nat.le_refl 0, rfl, fun _ waits => (List.mem_filter.1 waits).1⟩
  | orphan | notification => exact Light.refl.silent rfl
  | unrecognized => exact .refl

theorem DeliversAll.light {ms : List Json} (k : c.DeliversAll ms h c') : Light 0 c h c' := by
  induction k with
  | nil => exact .refl
  | cons first _ ih => exact first.light.trans ih

theorem Pulls.light (k : c.Pulls channel h c') : Light 2 c h c' := by
  cases k with
  | @received chunk h c' a _ delivers =>
    have fed : Light 0 c [] (c.fed chunk) := ⟨Nat.le_refl 0, rfl, List.Subset.refl _⟩
    have shown : Light 0 c' [.tell (.shown c'.tallied.status)] c'.tallied :=
      ⟨Nat.le_refl 0, rfl, List.Subset.refl _⟩
    exact ((fed.tells.trans delivers.light).trans shown).call.mono (by decide)
  | failed _ _ notes => exact notes.light.call

theorem Signals.light {payload : List UInt8} (k : c.Signals channel payload h c') :
    Light 2 c h c' := by
  have counted : Light 0 c [] (c.counted payload) := ⟨Nat.le_refl 0, rfl, List.Subset.refl _⟩
  cases k with
  | ignored => exact counted.mono (Nat.zero_le _)
  | announced _ pulls => exact (counted.trans pulls.light).mono (by decide)

theorem Polls.light {tick : PollTick} (k : c.Polls channel tick h c') : Light 3 c h c' := by
  cases k with
  | signal signals => exact signals.light.mono (by decide)
  | due _ _ signals => exact signals.light.call
  | failed _ _ notes => exact notes.light.call.mono (by decide)
  | ended shuts => exact shuts.light.mono (by decide)

theorem Sends.calls_le {method : String} {params : Json} {callback : Option Callback}
    {r : Except RpcError RequestId} (k : c.Sends method params callback h r c') :
    h.calls.length ≤ 2 ∧ c'.sweeping = c.sweeping := by
  have drops (ds : List Callback) : History.calls ((ds.map Output.discarded).map .tell) = [] :=
    History.calls_tell _
  cases k with
  | refused =>
    rw [drops]
    exact ⟨Nat.zero_le _, rfl⟩
  | failed _ _ _ _ _ notes =>
    have noted := notes.light
    refine ⟨?_, noted.sweeping⟩
    simp only [History.calls_cons, History.calls_append, drops, List.append_nil]
    exact Nat.succ_le_succ noted.calls
  | written =>
    refine ⟨?_, rfl⟩
    simp only [History.calls_cons, History.calls_append, drops]
    exact Nat.le_succ 1

/-! ### What reactions take -/

theorem Light.replied {n : Nat} {y : Reply} (k : Light m c h c') :
    Light m c (h ++ [.tell (.reply n y)]) c' :=
  k.trans (Light.refl.silent rfl)

/-- A connection that is not asked to send makes no request outstanding. -/
theorem Reacts.light (k : c.Reacts x h c') (others : ¬ x.Sends) : Light 4 c h c' := by
  cases k with
  | connect establishes => exact establishes.light.replied
  | send => exact (others trivial).elim
  | close shuts => exact shuts.light.replied.mono (by decide)
  | clientsGone shuts | linkLost shuts => exact shuts.light.mono (by decide)
  | poll _ polls => exact polls.light.mono (by decide)
  | @sweep now timeout =>
    have expired : Light 0 c [] (c.expired now timeout) :=
      ⟨Nat.le_refl 0, rfl, fun _ waits => (List.mem_filter.1 waits).1⟩
    exact expired.tells.mono (Nat.zero_le _)
  | unlimited => exact Light.refl.mono (Nat.zero_le _)

theorem Reacts.calls_le (k : c.Reacts x h c') : h.calls.length ≤ 4 := by
  by_cases sends : x.Sends
  · cases k with
    | send sends =>
      rw [History.calls_append]
      have few := sends.calls_le.1
      simp only [History.calls_cons, History.calls_nil, Act.call?, Option.toList_none,
        List.append_nil]
      exact Nat.le_trans few (by decide)
    | connect | close | clientsGone | linkLost | poll | sweep | unlimited => exact sends.elim
  · exact (k.light sends).calls

theorem Reacts.sweeping (k : c.Reacts x h c') : c'.sweeping = c.sweeping := by
  by_cases sends : x.Sends
  · cases k with
    | send sends => exact sends.calls_le.2
    | connect | close | clientsGone | linkLost | poll | sweep | unlimited => exact sends.elim
  · exact (k.light sends).sweeping

/-- A request that is outstanding was so before, or has just been written. -/
theorem Reacts.outstanding_cases (k : c.Reacts x h c') (waits : p ∈ c'.correlator.outstanding) :
    p ∈ c.correlator.outstanding ∨ p.since ∈ h.times := by
  by_cases asked : x.Sends
  · cases k with
    | @send n method params callback h r c' sends =>
      cases sends with
      | refused => exact .inl waits
      | failed _ _ _ _ _ notes => exact .inl (notes.light.outstanding waits)
      | @written channel request _ _ _ a _ =>
        cases callback with
        | none => exact .inl waits
        | some d =>
          rcases Pending.mem_insert waits with rfl | waits
          · exact .inr List.mem_cons_self
          · exact .inl waits
    | connect | close | clientsGone | linkLost | poll | sweep | unlimited => exact asked.elim
  · exact .inl ((k.light asked).outstanding waits)

/-- Requests that a sweep leaves are not too old. -/
theorem Reacts.age_lt (k : c.Reacts (.sweep now) h c')
    (limited : c.options.requestTimeout = some timeout) (waits : p ∈ c'.correlator.outstanding) :
    p.age now < timeout := by
  cases k with
  | sweep limited' =>
    obtain rfl := Option.some.inj (limited'.symm.trans limited)
    simpa using (List.mem_filter.1 waits).2
  | unlimited unlimited => cases unlimited.symm.trans limited

/-- The end of the link, or of its notifications, closes the connection. -/
theorem Reacts.closed_of_lost (k : c.Reacts x h c') (lost : x = .linkLost ∨ x = .poll .ended) :
    c'.state = .closed := by
  have shut {h : History} (s : c.Shuts .linkLost h c') : c'.state = .closed := by
    cases s with
    | already closed => exact closed
    | now => rfl
  rcases lost with rfl | rfl
  · cases k with
    | linkLost shuts => exact shut shuts
  · cases k with
    | poll _ polls =>
      cases polls with
      | ended shuts => exact shut shuts

end Connection

open Connection

variable {options : Options} {c c' : Connection} {g h : History} {x : Stimulus}
  {s s' : ConnectionState} {ss : List ConnectionState}

/-! ### The way through the states -/

theorem Travels.rank_le (k : Travels s ss s') : s.rank ≤ s'.rank := by
  induction ss generalizing s with
  | nil =>
    obtain rfl : s = s' := k.2
    exact Nat.le_refl _
  | cons a ss ih =>
    obtain ⟨chain, last⟩ := k
    obtain ⟨move, chain⟩ := List.isChain_cons_cons.1 chain
    rw [List.getLastD_cons] at last
    exact Nat.le_trans (Nat.le_of_lt move.rank_lt) (ih ⟨chain, last⟩)

theorem Steady.travels (before : Steady options g c) (after : Steady options (g ++ h) c') :
    Travels c.state h.states c'.state := by
  have last := after.entered
  rw [History.state_append, before.entered] at last
  refine ⟨?_, last⟩
  have moves := after.moves
  rw [History.states_append, ← List.cons_append] at moves
  obtain ⟨-, later, joined⟩ := List.isChain_append.1 moves
  cases next : h.states with
  | nil => exact .singleton _
  | cons s ss =>
    rw [next] at later joined
    refine .cons_cons (joined _ ?_ s rfl) later
    rw [List.getLast?_cons, ← before.entered, History.state, List.getLastD_eq_getLast?]
    rfl

/-- A connection that awaits a stimulus is not connected, or ready, or closed. -/
theorem Steady.state_cases (k : Steady options h c) :
    c.state = .disconnected ∧ c.channel = none ∨ c.state = .ready ∧ c.channel.isSome ∨
      c.state = .closed ∧ c.channel = none := by
  have stage := k.stage
  generalize h.exchanges = xs, c.state = state, c.channel = inUse at stage ⊢
  cases stage with
  | untried => exact .inl ⟨rfl, rfl⟩
  | serving => exact .inr (.inl ⟨rfl, rfl⟩)
  | ended => exact .inr (.inr ⟨rfl, rfl⟩)

theorem Steady.unclosed (k : Steady options h c) (uses : c.channel.isSome) : c.state ≠ .closed := by
  rcases k.state_cases with ⟨-, unused⟩ | ⟨ready, -⟩ | ⟨-, unused⟩
  · simp [unused] at uses
  · simp [ready]
  · simp [unused] at uses

/-- A connection that uses its characteristics goes on to use them, or is closed. -/
theorem Steady.uses (before : Steady options g c) (after : Steady options (g ++ h) c')
    (uses : c.channel.isSome) : c'.channel.isSome ∨ c'.state = .closed := by
  have rank := (before.travels after).rank_le
  rcases before.state_cases with ⟨-, none⟩ | ⟨ready, -⟩ | ⟨-, none⟩
  · simp [none] at uses
  · rw [ready] at rank
    rcases after.state_cases with ⟨untried, -⟩ | ⟨-, some⟩ | ⟨closed, -⟩
    · rw [untried] at rank
      exact absurd rank (by decide)
    · exact .inl some
    · exact .inr closed
  · simp [none] at uses

theorem Steady.closed_of_closed (before : Steady options g c) (after : Steady options (g ++ h) c')
    (closed : c.state = .closed) : c'.state = .closed := by
  have travels := before.travels after
  rw [closed] at travels
  exact travels.of_closed.2

end GattRpc
