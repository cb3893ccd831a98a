import TwinTree.Proofs.Pass.Reasoning

/-!
# One action following another

`Follows` compares two actions, each from a state of its own: where the first one ends well, so
does the second, and the two ends are related. It says nothing where the first ends in an error, so
what the first one has got through is known when the second one comes to it. There is one rule for
each way of putting actions together.
-/
namespace TwinTree

namespace Pass

variable {α β γ δ : Type} {leader : Pass α} {follower : Pass β} {ahead behind : State}
  {post weaker : α → State → β → State → Prop} {goal : γ → State → δ → State → Prop}

/-- Where `leader` ends well, `follower` ends well too, and the ends are as in `post`. -/
def Follows (leader : Pass α) (follower : Pass β) (ahead behind : State)
    (post : α → State → β → State → Prop) : Prop :=
  ∀ value after, EStateM.run leader ahead = .ok value after →
    ∃ value' after', EStateM.run follower behind = .ok value' after' ∧
      post value after value' after'

/-- Two actions in a row end well when the first does and then the second. -/
theorem run_bind_eq_ok_iff {action : Pass α} {next : α → Pass β} {state last : State} {result : β} :
    EStateM.run (action >>= next) state = .ok result last ↔
      ∃ value after, EStateM.run action state = .ok value after ∧
        EStateM.run (next value) after = .ok result last := by
  rw [run_bind]
  cases EStateM.run action state with
  | ok value after =>
    constructor
    · exact fun ended => ⟨value, after, rfl, ended⟩
    · rintro ⟨_, _, ⟨⟩, ended⟩
      exact ended
  | error error after =>
    constructor
    · rintro ⟨⟩
    · rintro ⟨_, _, ⟨⟩, _⟩

theorem run_change {access : FileSystem → Except Failure FileSystem} {error : String → Error}
    {state : State} {made : FileSystem}
    (changed : access state.fileSystem = .ok made) :
    EStateM.run (change access error) state = .ok () { state with fileSystem := made } := by
  have asked : EStateM.run (ask access error) state = .ok made state := by
    unfold ask
    refine run_bind_eq_ok_iff.2 ⟨state.fileSystem, state, rfl, ?_⟩
    rw [changed]
    rfl
  exact run_bind_eq_ok_iff.2 ⟨made, state, asked, rfl⟩

theorem Follows.bind {next : α → Pass γ} {next' : β → Pass δ}
    (first : Follows leader follower ahead behind post)
    (second : ∀ value after value' after', post value after value' after' →
      Follows (next value) (next' value') after after' goal) :
    Follows (leader >>= next) (follower >>= next') ahead behind goal := by
  intro result last ended
  obtain ⟨value, after, begun, onward⟩ := run_bind_eq_ok_iff.1 ended
  obtain ⟨value', after', begun', related⟩ := first value after begun
  obtain ⟨result', last', onward', reached⟩ := second _ _ _ _ related result last onward
  exact ⟨result', last', run_bind_eq_ok_iff.2 ⟨value', after', begun', onward'⟩, reached⟩

theorem Follows.mono (follows : Follows leader follower ahead behind post)
    (onEnd : ∀ value after value' after', post value after value' after' →
      weaker value after value' after') :
    Follows leader follower ahead behind weaker := by
  intro value after ended
  obtain ⟨value', after', ended', related⟩ := follows value after ended
  exact ⟨value', after', ended', onEnd _ _ _ _ related⟩

/-- What is known of a successful end of the first action may be used. -/
theorem Follows.of_leader {known : α → State → Prop}
    (meets : Meets leader ahead known fun _ => True)
    (follows : Follows leader follower ahead behind post) :
    Follows leader follower ahead behind fun value after value' after' =>
      known value after ∧ post value after value' after' := by
  intro value after ended
  obtain ⟨value', after', ended', related⟩ := follows value after ended
  exact ⟨value', after', ended', meets.of_run ended, related⟩

/-- What is known of a successful end of the second action may be used. -/
theorem Follows.of_follower {known : β → State → Prop}
    (meets : Meets follower behind known fun _ => True)
    (follows : Follows leader follower ahead behind post) :
    Follows leader follower ahead behind fun value after value' after' =>
      known value' after' ∧ post value after value' after' := by
  intro value after ended
  obtain ⟨value', after', ended', related⟩ := follows value after ended
  exact ⟨value', after', ended', meets.of_run ended', related⟩

/-- Whatever ends well may take the place of the second action, if the ends are still related. -/
theorem Follows.instead {other : Pass γ} {value' : γ} {after' : State}
    {related : α → State → γ → State → Prop}
    (follows : Follows leader follower ahead behind post)
    (ended : EStateM.run other behind = .ok value' after')
    (onEnd : ∀ value after last later, post value after last later →
      related value after value' after') :
    Follows leader other ahead behind related := by
  intro value after begun
  obtain ⟨last, later, _, holds⟩ := follows value after begun
  exact ⟨value', after', ended, onEnd value after last later holds⟩

/-- Where the second action is known to end well whenever the first one does. -/
theorem follows_of_run {known : α → State → Prop}
    (meets : Meets leader ahead known fun _ => True)
    (ends : ∀ value after, known value after → ∃ value' after',
      EStateM.run follower behind = .ok value' after' ∧ post value after value' after') :
    Follows leader follower ahead behind post := fun value after ended =>
  ends value after (meets.of_run ended)

theorem follows_pure {value : α} {value' : β} (related : post value ahead value' behind) :
    Follows (pure value) (pure value') ahead behind post := by
  rintro _ _ ⟨⟩
  exact ⟨value', behind, rfl, related⟩

/-- Nothing has to follow an error. -/
theorem follows_throw {error : Error} :
    Follows (throw error : Pass α) follower ahead behind post := by
  rintro _ _ ⟨⟩

theorem follows_modify {change change' : State → State} {post : Unit → State → Unit → State → Prop}
    (related : post () (change ahead) () (change' behind)) :
    Follows (modify change) (modify change') ahead behind post := by
  rintro _ _ ⟨⟩
  exact ⟨(), change' behind, rfl, related⟩

/-! ### Actions in front of others -/

theorem follows_modify_bind {change change' : State → State} {next : Unit → Pass γ}
    {next' : Unit → Pass δ}
    (onward : Follows (next ()) (next' ()) (change ahead) (change' behind) goal) :
    Follows (modify change >>= next) (modify change' >>= next') ahead behind goal := onward

theorem follows_fileSystem_bind {next : FileSystem → Pass γ} {next' : FileSystem → Pass δ}
    (onward : Follows (next ahead.fileSystem) (next' behind.fileSystem) ahead behind goal) :
    Follows (fileSystem >>= next) (fileSystem >>= next') ahead behind goal := onward

/-- A question that both file systems answer alike. -/
theorem follows_ask_bind {question : FileSystem → Except Failure α}
    {question' : FileSystem → Except Failure α} {error error' : String → Error}
    {next : α → Pass γ} {next' : α → Pass δ}
    (alike : ∀ answer, question ahead.fileSystem = .ok answer →
      question' behind.fileSystem = .ok answer)
    (onward : ∀ answer, question ahead.fileSystem = .ok answer →
      Follows (next answer) (next' answer) ahead behind goal) :
    Follows (ask question error >>= next) (ask question' error' >>= next') ahead behind goal := by
  unfold ask
  rw [bind_assoc, bind_assoc]
  apply follows_fileSystem_bind
  -- Only an answer has to be the same; where the first action is refused, nothing is asked of the
  -- second.
  cases found : question ahead.fileSystem with
  | ok answer =>
    rw [alike answer found]
    exact onward answer found
  | error failure => exact follows_throw

theorem follows_isMaterialized_bind {path : Path} {next : Bool → Pass γ} {next' : Bool → Pass δ}
    (onward : Follows (next (ahead.materialized.any fun known => decide (known.Same path)))
      (next' (behind.materialized.any fun known => decide (known.Same path))) ahead behind goal) :
    Follows (isMaterialized path >>= next) (isMaterialized path >>= next') ahead behind goal :=
  onward

/-- A check that is passed changes nothing. -/
theorem follows_requireSafe_bind {task other : Task} {path : Path} {next : Unit → Pass γ}
    {next' : Unit → Pass δ}
    (alike : ahead.fileSystem.checkSafe path task.twin = .ok () →
      behind.fileSystem.checkSafe path other.twin = .ok ())
    (onward : ahead.fileSystem.checkSafe path task.twin = .ok () →
      Follows (next ()) (next' ()) ahead behind goal) :
    Follows (requireSafe task path >>= next) (requireSafe other path >>= next') ahead behind
      goal := by
  unfold requireSafe
  rw [bind_assoc, bind_assoc]
  apply follows_fileSystem_bind
  cases safe : ahead.fileSystem.checkSafe path task.twin with
  | ok =>
    rw [alike safe]
    exact onward safe
  | error => exact follows_throw

/-! ### Loops -/

/-- Two loops over the same items, each round of which keeps the same relation. -/
theorem follows_forM {items : List γ} {body body' : γ → Pass PUnit} {kept : State → State → Prop}
    (related : kept ahead behind)
    (round : ∀ item ∈ items, ∀ ahead behind, kept ahead behind →
      Follows (body item) (body' item) ahead behind fun _ after _ after' => kept after after') :
    Follows (items.forM body) (items.forM body') ahead behind
      fun _ after _ after' => kept after after' := by
  induction items generalizing ahead behind with
  | nil => exact follows_pure related
  | cons item rest ih =>
    have first := round item List.mem_cons_self ahead behind related
    exact first.bind fun _ _ _ _ related =>
      ih related fun later member => round later (List.mem_cons_of_mem _ member)

end Pass

/-! ### Outcomes -/

variable {fs : FileSystem} {source twin : Path} {options : Options} {policy : Policy}
  {report : Report}

/-- A pass gives a report where it ends well. -/
theorem exists_run_of_deriveWith
    (succeeded : (deriveWith fs source twin options policy).result = .ok report) :
    ∃ after, EStateM.run (Pass.run source twin options policy) { fileSystem := fs } =
      .ok report after := by
  unfold deriveWith at succeeded
  split at succeeded
  next found after ended =>
    cases succeeded
    exact ⟨after, ended⟩
  next => cases succeeded

theorem deriveWith_of_run {after : State}
    (ended : EStateM.run (Pass.run source twin options policy) { fileSystem := fs } =
      .ok report after) :
    deriveWith fs source twin options policy =
      ⟨.ok report, after.journal.log, after.fileSystem⟩ := by
  rw [deriveWith, ended]

namespace Pass

/-- The arguments are accepted when no check refuses them. -/
theorem run_checkArguments_eq_ok_iff {state after : State} :
    EStateM.run (checkArguments source twin) state = .ok () after ↔
      after = state ∧ state.fileSystem.isDirectory source = true ∧
        state.fileSystem.overlaps source twin = false ∧
        ∀ target, state.fileSystem.lstat twin ≠ .ok (.link target) := by
  unfold checkArguments
  rw [run_bind_eq_ok_iff]
  constructor
  · rintro ⟨_, _, ⟨⟩, rest⟩
    cases directory : state.fileSystem.isDirectory source with
    | false =>
      rw [directory] at rest
      cases rest
    | true =>
      cases overlap : state.fileSystem.overlaps source twin with
      | true =>
        rw [directory, overlap] at rest
        cases rest
      | false =>
        rw [directory, overlap, if_neg (by decide), if_neg (by decide)] at rest
        split at rest
        next => cases rest
        next noLink =>
          cases rest
          exact ⟨rfl, rfl, rfl, noLink⟩
  · rintro ⟨rfl, directory, apart, noLink⟩
    refine ⟨_, _, rfl, ?_⟩
    rw [directory, apart, if_neg (by decide), if_neg (by decide)]
    split
    next target shown => exact absurd shown (noLink target)
    next => rfl

/-- The stages of a pass that ends well. -/
structure Stages (fs : FileSystem) (source twin : Path) (options : Options) (policy : Policy)
    (task : Task) (start ready after : State) : Prop where
  checked : EStateM.run (checkArguments source twin) { fileSystem := fs } = .ok () start
  prepared : prepare source twin options policy = .ok task
  rooted : EStateM.run (prepareRoot twin options.dryRun) start = .ok () ready
  walked : EStateM.run (walk task depthLimit source) ready = .ok () after

/-- A pass ends well when all its stages do. -/
theorem run_eq_ok_iff {after : State} :
    EStateM.run (run source twin options policy) { fileSystem := fs } = .ok report after ↔
      report = after.journal.report ∧ ∃ task start ready,
        Stages fs source twin options policy task start ready after := by
  unfold run
  rw [run_bind_eq_ok_iff]
  constructor
  · rintro ⟨_, start, arguments, rest⟩
    cases prepared : prepare source twin options policy with
    | error reason =>
      rw [prepared] at rest
      cases rest
    | ok task =>
      rw [prepared] at rest
      obtain ⟨_, ready, root, rest⟩ := run_bind_eq_ok_iff.1 rest
      obtain ⟨_, walked, walk, rest⟩ := run_bind_eq_ok_iff.1 rest
      cases rest
      exact ⟨rfl, task, start, ready, arguments, prepared, root, walk⟩
  · rintro ⟨rfl, task, start, ready, stages⟩
    refine ⟨(), start, stages.checked, ?_⟩
    rw [stages.prepared]
    refine run_bind_eq_ok_iff.2 ⟨(), ready, stages.rooted, ?_⟩
    exact run_bind_eq_ok_iff.2 ⟨(), after, stages.walked, rfl⟩

end Pass

end TwinTree
