import Mathlib.Data.List.Induction
import Finality.Client.Edits
import Finality.Client.Operations
import Finality.Proofs.Client.Bystander
import Finality.Proofs.Client.Listing
import Finality.Proofs.Client.Separation

/-!
# What is listed after edits

Edits of any clients leave a client with the states that were committed last at their heights
and have not been dropped since (`ClientId.LastCommitted`). One more edit changes that at the
heights that it is about, and only if it is an edit of the client
(`ClientId.lastCommitted_append`); a read of the records changes in the same way
(`ClientId.Tracks.edit`). The list of states is then in the order of heights because suffixes
of keys are: `consensusStates_after_edits` says both.
-/

namespace Finality

namespace Edit

/-- An edit commits a state at a height. -/
def Commits (edit : Edit) (height : Height) (consensus : ConsensusState) : Prop :=
  ∃ state roster, edit = commit state (some (height, consensus)) roster

/-- An edit drops the state at a height. -/
def Drops (edit : Edit) (height : Height) : Prop :=
  ∃ heights, edit = drop heights ∧ height ∈ heights

/-- An edit is about a height: it commits a state there or drops it. -/
def Touches (edit : Edit) (height : Height) : Prop :=
  edit.Drops height ∨ ∃ consensus, edit.Commits height consensus

/-- An edit writes under keys of its own client only. -/
theorem exists_key {client : ClientId} {edit : Edit} :
    ∀ write ∈ edit.writes client, ∃ space ∈ Keyspace.families, ∃ suffix,
      write.key = space.key client suffix := by
  intro write member
  cases edit with
  | commit state consensus roster => exact ClientId.exists_key_of_commit member
  | drop heights => exact ClientId.exists_key_of_prune member

end Edit

namespace Records

/-- The content of a store after edits, made one after the other. -/
def edited (records : Records) (edits : List (ClientId × Edit)) : Records :=
  edits.foldl (fun records entry => records.applyAll (entry.2.writes entry.1)) records

theorem edited_append (records : Records) (edits : List (ClientId × Edit)) (owner : ClientId)
    (edit : Edit) :
    records.edited (edits ++ [(owner, edit)]) =
      (records.edited edits).applyAll (edit.writes owner) := by
  rw [edited, List.foldl_append]
  rfl

end Records

/-- An open store takes all edits. -/
theorem Store.editAll_ok {store : Store} {records : Records}
    (opened : store.content? = some records) (edits : List (ClientId × Edit)) :
    ∃ last, store.editAll edits = .ok last ∧ last.content? = some (records.edited edits) := by
  induction edits generalizing store records with
  | nil => exact ⟨store, rfl, opened⟩
  | cons entry edits ih =>
      rcases commit_ok opened (entry.2.writes entry.1) with ⟨next, committed, content⟩
      rcases ih content with ⟨last, rest, lastContent⟩
      refine ⟨last, ?_, lastContent⟩
      have made : store.edit entry.1 entry.2 = .ok next := by
        rw [edit, commitFor, committed]
        rfl
      rw [editAll, List.foldlM_cons, made]
      exact rest

namespace ClientId

/-- Some edit of a client committed a state at a height, and no later edit of the client is about
that height. -/
def LastCommitted (client : ClientId) (edits : List (ClientId × Edit)) (height : Height)
    (consensus : ConsensusState) : Prop :=
  ∃ before edit after, edits = before ++ (client, edit) :: after ∧
    edit.Commits height consensus ∧
    ∀ later, (client, later) ∈ after → ¬later.Touches height

variable {client owner : ClientId} {records : Records} {edits : List (ClientId × Edit)}
  {change : Edit} {height : Height} {consensus : ConsensusState}

/-- What is the last commit at a height after one more edit: the edit itself, or the one before
if the edit is not about the height or not one of the client. -/
theorem lastCommitted_append :
    client.LastCommitted (edits ++ [(owner, change)]) height consensus ↔
      (owner = client ∧ change.Commits height consensus) ∨
        (client.LastCommitted edits height consensus ∧
          (owner = client → ¬change.Touches height)) := by
  constructor
  · rintro ⟨before, made, after, split, commits, untouched⟩
    rcases List.eq_nil_or_concat after with rfl | ⟨earlier, last, rfl⟩
    · rcases List.append_inj_right' split rfl with same
      cases same
      exact Or.inl ⟨rfl, commits⟩
    · rw [List.concat_eq_append, ← List.cons_append, ← List.append_assoc] at split
      rcases List.append_inj' split rfl with ⟨sameEdits, sameLast⟩
      cases sameLast
      refine Or.inr ⟨⟨before, made, earlier, sameEdits, commits, ?_⟩, ?_⟩
      · intro later member
        exact untouched later (by simp [member])
      · rintro rfl
        exact untouched change (by simp)
  · rintro (⟨rfl, commits⟩ | ⟨⟨before, made, after, rfl, commits, untouched⟩, apart⟩)
    · exact ⟨edits, change, [], rfl, commits, fun _ member => absurd member List.not_mem_nil⟩
    · refine ⟨before, made, after ++ [(owner, change)], by simp, commits, ?_⟩
      intro later member
      rcases List.mem_append.1 member with earlier | last
      · exact untouched later earlier
      · cases List.mem_singleton.1 last
        exact apart rfl

/-- The states of a client are exactly those that were committed last and not dropped since. -/
structure Tracks (client : ClientId) (records : Records) (edits : List (ClientId × Edit)) :
    Prop extends LegibleStates client records where
  reads_iff : ∀ height consensus,
    client.consensusState? records height = .ok (some consensus) ↔
      client.LastCommitted edits height consensus

/-- A client without records of states has none after no edits. -/
theorem Tracks.start (bare : records.scan (Keyspace.states.stem client) = []) :
    client.Tracks records [] := by
  have missing : ∀ suffix, records.get? (Keyspace.states.key client suffix) = none := by
    intro suffix
    rw [Option.eq_none_iff_forall_ne_some]
    intro value stored
    have scanned : (Keyspace.states.key client suffix, value) ∈
        records.scan (Keyspace.states.stem client) :=
      Records.mem_scan.2 ⟨stored, List.prefix_append _ _⟩
    rw [bare] at scanned
    cases scanned
  have nothing : ∀ height, client.consensusState? records height = .ok none :=
    fun height => readRecord?_of_missing (missing height.suffix)
  refine ⟨⟨fun suffix present => absurd (missing suffix) present, ?_⟩, ?_⟩
  · exact fun height => ⟨none, nothing height⟩
  intro height consensus
  rw [nothing height]
  constructor
  · intro equal
    cases equal
  · rintro ⟨before, made, after, split, -⟩
    simp at split

/-- What is read at a height after an edit of the client. -/
theorem consensusState?_edit_iff :
    client.consensusState? (records.applyAll (change.writes client)) height =
        .ok (some consensus) ↔
      change.Commits height consensus ∨
        (client.consensusState? records height = .ok (some consensus) ∧
          ¬change.Touches height) := by
  cases change with
  | commit state committed roster =>
      rw [Edit.writes, consensusState?_commit]
      cases committed with
      | none => simp [Edit.Commits, Edit.Touches, Edit.Drops]
      | some entry =>
          rcases entry with ⟨known, value⟩
          by_cases same : known = height
          · simp [Edit.Commits, Edit.Touches, Edit.Drops, same]
          · simp [Edit.Commits, Edit.Touches, Edit.Drops, same]
  | drop heights =>
      rw [Edit.writes, consensusState?_prune]
      by_cases dropped : height ∈ heights
      · simp [Edit.Commits, Edit.Touches, Edit.Drops, dropped]
      · simp [Edit.Commits, Edit.Touches, Edit.Drops, dropped]

theorem LegibleStates.edit (legible : client.LegibleStates records) (edit : Edit) :
    client.LegibleStates (records.applyAll (edit.writes client)) := by
  cases edit with
  | commit state consensus roster => exact legible.commit
  | drop heights => exact legible.prune heights

/-- One edit of any client changes what is read as it changes what was committed last. -/
theorem Tracks.edit (tracks : client.Tracks records edits) (owner : ClientId) (edit : Edit) :
    client.Tracks (records.applyAll (edit.writes owner)) (edits ++ [(owner, edit)]) := by
  by_cases own : owner = client
  · subst own
    refine ⟨tracks.toLegibleStates.edit edit, ?_⟩
    intro height consensus
    rw [consensusState?_edit_iff, lastCommitted_append, tracks.reads_iff]
    simp
  · have same : client.SameRecords (records.applyAll (edit.writes owner)) records :=
      sameRecords_applyAll own Edit.exists_key
    refine ⟨same.legibleStates tracks.toLegibleStates, ?_⟩
    intro height consensus
    rw [same.consensusState?, lastCommitted_append, tracks.reads_iff]
    simp [own]

theorem Tracks.edited (bare : records.scan (Keyspace.states.stem client) = [])
    (edits : List (ClientId × Edit)) : client.Tracks (records.edited edits) edits := by
  induction edits using List.reverseRecOn with
  | nil => exact .start bare
  | append_singleton edits entry ih =>
      rw [Records.edited_append]
      exact ih.edit entry.1 entry.2

end ClientId

/-- Start from an open store without records of a client's states, and make any edits, for it or
for other clients. Then the list of the client's states has each height at which it was
committed to and that was not dropped since, once, with the state that was committed there last,
and heights ascend. They do so since a suffix is made by one height at most, from which it is read
back, and since suffixes are ordered as the heights are. -/
theorem consensusStates_after_edits {store : Store} {records : Records} {client : ClientId}
    (opened : store.content? = some records)
    (bare : records.scan (Keyspace.states.stem client) = []) (edits : List (ClientId × Edit)) :
    (∃ last states, store.editAll edits = .ok last ∧
      last.read client .states = .ok (.states states) ∧
      (states.Pairwise fun left right => left.1 < right.1) ∧
      ∀ height consensus, (height, consensus) ∈ states ↔
        client.LastCommitted edits height consensus) ∧
    Function.Injective Height.suffix ∧
    (∀ suffix height, Height.ofSuffix? suffix = some height ↔ suffix = height.suffix) ∧
    ∀ left right : Height, left.suffix < right.suffix ↔ left < right := by
  refine ⟨?_, fun _ _ => Height.suffix_injective, fun _ _ => Height.ofSuffix?_eq_some_iff,
    fun _ _ => Height.suffix_lt_suffix_iff⟩
  rcases Store.editAll_ok opened edits with ⟨last, made, content⟩
  have tracks := ClientId.Tracks.edited bare edits
  rcases tracks.exists_consensusStates with ⟨states, listed⟩
  refine ⟨last, states, made, ?_, tracks.ascending_states listed, ?_⟩
  · rw [Store.read_eq content, Query.run, listed]
    rfl
  · intro height consensus
    rw [tracks.mem_consensusStates_iff listed, tracks.reads_iff]

namespace Sample

/-- Commit a state of a client at a height. -/
def committingAt (height : Height) : Edit :=
  .commit trusted.clientState (some (height, consensusState)) none

/-- Two states are committed, and one of them is dropped. What the neighbour drops is not there. -/
def edits : List (ClientId × Edit) :=
  [(client, committingAt ⟨1, 0⟩), (neighbour, .drop [⟨0, 256⟩]),
    (client, committingAt ⟨0, 256⟩), (client, .drop [⟨1, 0⟩, ⟨7, 7⟩])]

theorem last_edits :
    client.LastCommitted edits ⟨0, 256⟩ consensusState ∧
      ∀ consensus, ¬client.LastCommitted edits ⟨1, 0⟩ consensus := by
  have split : edits = edits.take 3 ++ [(client, .drop [⟨1, 0⟩, ⟨7, 7⟩])] := rfl
  constructor
  · refine ⟨edits.take 2, committingAt ⟨0, 256⟩, edits.drop 3, rfl, ⟨_, _, rfl⟩, ?_⟩
    intro later member
    cases List.mem_singleton.1 member
    simp [Edit.Touches, Edit.Drops, Edit.Commits]
  · intro consensus
    rw [split, ClientId.lastCommitted_append]
    simp [Edit.Touches, Edit.Drops, Edit.Commits]

end Sample

/-- Of two states that were committed in a table, the one that was dropped is not listed. -/
theorem consensusStates_after_edits_sample :
    ∃ last states, (Store.create .table).editAll Sample.edits = .ok last ∧
      last.read Sample.client .states = .ok (.states states) ∧
      (states.Pairwise fun left right => left.1 < right.1) ∧
      (⟨0, 256⟩, Sample.consensusState) ∈ states ∧ ∀ consensus, (⟨1, 0⟩, consensus) ∉ states := by
  have opened : (Store.create .table).content? = some Records.empty := rfl
  have bare : Records.empty.scan (Keyspace.states.stem Sample.client) = [] := rfl
  rcases (consensusStates_after_edits opened bare Sample.edits).1 with
    ⟨last, states, made, listed, ascending, members⟩
  refine ⟨last, states, made, listed, ascending, ?_, ?_⟩
  · exact (members _ _).2 Sample.last_edits.1
  · exact fun consensus member => Sample.last_edits.2 consensus ((members _ _).1 member)

end Finality
