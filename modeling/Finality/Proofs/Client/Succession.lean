import Finality.Proofs.Client.Bystander

/-!
# What is kept from one content to a later one

The scalars of a client only move on: the latest height never falls, and the durations stay
as they were set (`ClientState.MovesOn`). States are only ever added above the latest one,
so a state that is found at or below an earlier latest height is the one that was there
already (`ClientId.Succession`). One request keeps both, whichever client it is for
(`ClientId.WellKept.succession_effect`), so any number of requests does
(`ClientId.WellKept.succession_after`).
-/

namespace Finality

/-- The scalars of a client are later ones of it. -/
structure ClientState.MovesOn (state next : ClientState) : Prop where
  higher : state.latestHeight ≤ next.latestHeight
  samePeriod : next.trustingPeriod = state.trustingPeriod
  sameDrift : next.maxClockDrift = state.maxClockDrift

namespace ClientState.MovesOn

variable {state next last : ClientState}

theorem refl (state : ClientState) : state.MovesOn state := ⟨Height.le_refl _, rfl, rfl⟩

theorem trans (first : state.MovesOn next) (second : next.MovesOn last) :
    state.MovesOn last where
  higher := Height.le_trans first.higher second.higher
  samePeriod := second.samePeriod.trans first.samePeriod
  sameDrift := second.sameDrift.trans first.sameDrift

end ClientState.MovesOn

namespace ClientId

/-- A content comes after another one, as far as the scalars and the states of a client go. -/
structure Succession (client : ClientId) (records later : Records) (state next : ClientState) :
    Prop extends ClientState.MovesOn state next where
  kept : client.WellKept later next
  states : ∀ height consensus, height ≤ state.latestHeight →
    client.consensusState? later height = .ok (some consensus) →
      client.consensusState? records height = .ok (some consensus)

variable {client : ClientId} {records later last : Records} {state next final : ClientState}

namespace Succession

theorem refl (kept : client.WellKept records state) :
    client.Succession records records state state where
  toMovesOn := .refl state
  kept := kept
  states := fun _ _ _ found => found

theorem trans (first : client.Succession records later state next)
    (second : client.Succession later last next final) :
    client.Succession records last state final where
  toMovesOn := first.toMovesOn.trans second.toMovesOn
  kept := second.kept
  states := by
    intro height consensus below found
    apply first.states height consensus below
    exact second.states height consensus (Height.le_trans below first.higher) found

/-- At or below the earlier latest height, a state can only be dropped. -/
theorem consensusState?_of_le (succession : client.Succession records later state next)
    {height : Height} (below : height ≤ state.latestHeight) :
    client.consensusState? later height = .ok none ∨
      client.consensusState? later height = client.consensusState? records height := by
  rcases succession.kept.readsStates height with ⟨found, read⟩
  cases found with
  | none => exact Or.inl read
  | some consensus => exact Or.inr (read.trans (succession.states height consensus below read).symm)

end Succession

variable [Signing]

/-- Every accepted call of an installed client moves it on. -/
theorem WellKept.succession_accepts {config : Config} {now : Int} {call : Call}
    {accepted : Accepted Reply} (kept : client.WellKept records state)
    (accepts : client.Accepts records config now call accepted) :
    ∃ next, client.Succession records (records.applyAll accepted.writes) state next := by
  cases accepts with
  | install fresh live rooted timed =>
      rw [kept.scalars] at fresh
      cases fresh
  | @update current trusted header verified live known passed bound =>
      rcases liveState_eq_ok_iff.1 live with ⟨read, -⟩
      rw [kept.scalars] at read
      cases read
      have above : state.latestHeight < verified.height := by
        rcases snapshot_eq_ok_iff.1 known with ⟨-, consensus, roster, -, -, rfl⟩
        exact height_lt_of_verifyHeader passed
      refine ⟨state.advanced verified.height verified.consensusState.timestamp,
        ⟨Height.le_of_lt above, rfl, rfl⟩, kept.advance known passed, ?_⟩
      intro height consensus below found
      rw [consensusState?_commit] at found
      simp only at found
      split at found
      · next same => exact absurd above (Height.not_lt_of_le (same ▸ below))
      · exact found
  | @misbehaviour current trusted misbehaviour evidence live sameClient known proven =>
      rcases liveState_eq_ok_iff.1 live with ⟨read, -⟩
      rw [kept.scalars] at read
      cases read
      refine ⟨state.frozen evidence.freezeHeight, ⟨Height.le_refl _, rfl, rfl⟩,
        kept.commit_scalars rfl rfl, ?_⟩
      intro height consensus below found
      rw [consensusState?_commit] at found
      exact found
  | verify shown => exact ⟨state, .refl kept⟩
  | status asked => exact ⟨state, .refl kept⟩
  | @prune current states read listed =>
      rw [kept.scalars] at read
      cases read
      refine ⟨state, .refl state, kept.prune (latestHeight_not_mem_expiredHeights states now), ?_⟩
      intro height consensus below found
      rw [consensusState?_prune] at found
      split at found
      · cases found
      · exact found

/-- One request of any client moves an installed client on. -/
theorem WellKept.succession_effect (kept : client.WellKept records state) (request : Request) :
    ∃ next, client.Succession records (request.effect records) state next := by
  rcases client.effect_cases request records with same | ⟨rfl, accepted, accepts, changed⟩
  · refine ⟨state, .refl state, same.wellKept kept, ?_⟩
    intro height consensus below found
    rw [same.consensusState?] at found
    exact found
  · rw [changed]
    exact kept.succession_accepts accepts

/-- Any number of requests of any clients moves an installed client on. -/
theorem WellKept.succession_after (kept : client.WellKept records state)
    (requests : List Request) :
    ∃ next, client.Succession records (records.after requests) state next := by
  refine Records.after_keeps (fun current => ∃ next, client.Succession records current state next)
    ?_ ⟨state, .refl kept⟩ requests
  intro current request given
  rcases given with ⟨next, first⟩
  rcases first.kept.succession_effect request with ⟨last, second⟩
  exact ⟨last, first.trans second⟩

end ClientId

end Finality
