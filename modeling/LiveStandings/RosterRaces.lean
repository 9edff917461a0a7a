/-
`add_roster_player` in flight.  The count, the clash checks and the insert are
separate statements; two unique constraints stand behind the clash checks and
raise where a check was outrun, and nothing stands behind the count.  A
statement also raises for a value the driver does not encode.
-/
import LiveStandings.ManagementRuns
import Mathlib.Logic.Function.Basic

namespace LiveStandings

open KeyedTable PyJson Runs Fallible

universe u

/-- Where one request stands. -/
inductive RosterPhase where
  | arrived
  | counted
  | unlinked
  | cleared
  | done (answer : Except Unhandled Response)

/-- The next statement of `add_roster_player`, once the owner gate let it
through. -/
def RosterPhase.advance (tournamentId : Int) (payload : RosterPlayerCreate)
    (registry : Registry) : RosterPhase → RosterPhase × Registry
  | arrived =>
      match requireRosterRoom registry.db tournamentId with
      | .error raised => (done (httpExceptionHandler raised), registry)
      | .ok _ => (counted, registry)
  | counted =>
      match requireFreeProfile registry.db tournamentId payload.profileId with
      | .error raised => (done (httpExceptionHandler raised), registry)
      | .ok _ => (unlinked, registry)
  | unlinked =>
      match requireFreeName registry.db tournamentId payload.name with
      | .error raised => (done (httpExceptionHandler raised), registry)
      | .ok _ => (cleared, registry)
  | cleared =>
      match insertRosterRow registry tournamentId payload with
      | .error _ => (done (httpExceptionHandler .unhandled), registry)
      | .ok committed => (done (.ok noContent), committed)
  | done answer => (done answer, registry)

/-- Advancing a request `n` times, uninterrupted. -/
def RosterPhase.advances (tournamentId : Int) (payload : RosterPlayerCreate) :
    Nat → RosterPhase × Registry → RosterPhase × Registry
  | 0, state => state
  | n + 1, (phase, registry) =>
      advances tournamentId payload n
        (phase.advance tournamentId payload registry)

/-- Uninterrupted, the four statements are `add_roster_player`. -/
theorem addRosterPlayer_eq (tournament : Tournament)
    (payload : RosterPlayerCreate) (registry : Registry) :
    RosterPhase.advances tournament.id payload 4 (.arrived, registry) =
      match addRosterPlayer tournament payload registry with
      | .error raised => (.done (httpExceptionHandler raised), registry)
      | .ok (response, committed) => (.done (.ok response), committed) := by
  simp only [RosterPhase.advances, RosterPhase.advance, addRosterPlayer]
  cases requireRosterRoom registry.db tournament.id with
  | error raised => rfl
  | ok _ =>
      cases requireFreeProfile registry.db tournament.id payload.profileId with
      | error raised => rfl
      | ok _ =>
          cases requireFreeName registry.db tournament.id payload.name with
          | error raised => rfl
          | ok _ =>
              simp only [bind, Except.bind]
              cases insertRosterRow registry tournament.id payload <;> rfl

/-- The committed state and every request in flight. -/
structure RosterRace (I : Type u) where
  registry : Registry
  phase : I → RosterPhase

/-- Each step is one statement of one request. -/
inductive RosterStep {I : Type u} [DecidableEq I] (tournamentId : Int)
    (payload : I → RosterPlayerCreate) :
    RosterRace I → I → RosterRace I → Prop where
  | advance (σ : RosterRace I) (i : I) :
      RosterStep tournamentId payload σ i
        { registry :=
            ((σ.phase i).advance tournamentId (payload i) σ.registry).2
          phase := Function.update σ.phase i
            ((σ.phase i).advance tournamentId (payload i) σ.registry).1 }

/-- Two requests that add the same name or the same profile. -/
def SameEntrant (left right : RosterPlayerCreate) : Prop :=
  left.name = right.name ∨
    left.profileId = right.profileId ∧ left.profileId ≠ none

/-- Whether the roster holds the name or the profile of a request. -/
def entrantTaken (db : Database) (tournamentId : Int)
    (payload : RosterPlayerCreate) : Bool :=
  payload.profileId.any (profileTaken db tournamentId) ||
    nameTaken db tournamentId payload.name

/-- The request was answered with success. -/
def RosterPhase.Added (phase : RosterPhase) : Prop :=
  ∃ answer, phase = .done answer ∧ statusOf answer = 204

/-- What concurrent additions are to leave: a roster under its ceiling, answers
that are a success or a refusal, and of two requests for one entrant exactly
one success, unless the roster is full or has the entrant from elsewhere. -/
structure AddsSettled {I : Type u} (tournamentId : Int)
    (payload : I → RosterPlayerCreate) (σ : RosterRace I) : Prop where
  ceiling : rosterCount σ.registry.db tournamentId ≤ maxRosterRowsPerTournament
  answered : ∀ i answer, σ.phase i = .done answer →
    statusOf answer = 204 ∨ 400 ≤ statusOf answer ∧ statusOf answer < 500
  exclusive : ∀ i j, i ≠ j → SameEntrant (payload i) (payload j) →
    (σ.phase i).Added → ¬ (σ.phase j).Added
  settled : ∀ i j answer answer', i ≠ j →
    SameEntrant (payload i) (payload j) → σ.phase i = .done answer →
      σ.phase j = .done answer' → (σ.phase i).Added ∨ (σ.phase j).Added ∨
        maxRosterRowsPerTournament ≤ rosterCount σ.registry.db tournamentId ∨
        entrantTaken σ.registry.db tournamentId (payload i) = true ∨
        entrantTaken σ.registry.db tournamentId (payload j) = true

/-- The driver encodes what a check of the request is about to bind. -/
def RosterPhase.binds (payload : RosterPlayerCreate) : RosterPhase → Bool
  | counted => profileEncodes payload.profileId
  | unlinked => textEncodes payload.name
  | _ => true

/-- What a check binds encodes, and the three checks of a request still pass
when it inserts. -/
structure ChecksHold {I : Type u} (tournamentId : Int)
    (payload : I → RosterPlayerCreate) (σ : RosterRace I) (i : I) : Prop where
  binds : (σ.phase i).binds (payload i) = true
  insert : σ.phase i = .cleared →
    requireRosterRoom σ.registry.db tournamentId = .ok () ∧
      requireFreeProfile σ.registry.db tournamentId (payload i).profileId =
        .ok () ∧
      requireFreeName σ.registry.db tournamentId (payload i).name = .ok ()

section Moves

variable {tournamentId : Int} {payload : RosterPlayerCreate}
  {registry registry' : Registry}

theorem entrantTaken_eq_true {db : Database} :
    entrantTaken db tournamentId payload = true ↔
      ∃ entry ∈ db.tournamentPlayers.rows, entry.tournamentId = tournamentId ∧
        (entry.profileId = payload.profileId ∧ payload.profileId ≠ none ∨
          entry.name = payload.name) := by
  simp only [entrantTaken, Bool.or_eq_true, nameTaken_eq_true]
  constructor
  · rintro (htaken | ⟨entry, hentry, hid, hname⟩)
    · obtain ⟨profileId, hprofile, htaken⟩ := (Option.any_eq_true ..).mp htaken
      obtain ⟨entry, hentry, hid, hlinked⟩ := profileTaken_eq_true.mp htaken
      exact ⟨entry, hentry, hid, .inl ⟨hlinked.trans hprofile.symm, by
        simp [hprofile]⟩⟩
    · exact ⟨entry, hentry, hid, .inr hname⟩
  · rintro ⟨entry, hentry, hid, ⟨hprofile, hlinked⟩ | hname⟩
    · obtain ⟨profileId, hsome⟩ := Option.ne_none_iff_exists'.mp hlinked
      refine .inl ((Option.any_eq_true ..).mpr ⟨profileId, hsome, ?_⟩)
      exact profileTaken_eq_true.mpr
        ⟨entry, hentry, hid, hprofile.trans hsome⟩
    · exact .inr ⟨entry, hentry, hid, hname⟩

theorem requireRosterRoom_eq_ok {db : Database} :
    requireRosterRoom db tournamentId = .ok () ↔
      rosterCount db tournamentId < maxRosterRowsPerTournament := by
  unfold requireRosterRoom
  split
  · next hfull => simp [hfull]
  · next hroom => exact iff_of_true rfl (Nat.lt_of_not_le hroom)

/-- A clash check: it raises for what does not encode, refuses what is taken
and passes otherwise. -/
inductive ClashCheck (result : Except Raised Unit) (encodes taken : Bool) :
    Prop where
  | raised (hencodes : encodes = false) (hresult : result = .error .unhandled)
  | refused (answer : Response) (hencodes : encodes = true)
      (htaken : taken = true)
      (hresult : ∃ raised, result = .error raised ∧
        httpExceptionHandler raised = .ok answer)
      (hstatus : 400 ≤ answer.status ∧ answer.status < 500)
  | passed (hencodes : encodes = true) (htaken : taken = false)
      (hresult : result = .ok ())

theorem clashCheck_ite (encodes taken : Bool) (detail : String) :
    ClashCheck (if !encodes then .error .unhandled
      else if taken then .error (httpException 409 detail final_409)
      else .ok ()) encodes taken := by
  cases encodes with
  | false => exact .raised rfl rfl
  | true =>
      cases taken with
      | true =>
          have hstatus : 400 ≤ 409 ∧ 409 < 500 := by decide
          exact .refused _ rfl rfl ⟨_, rfl, rfl⟩ hstatus
      | false => exact .passed rfl rfl rfl

theorem requireFreeProfile_check (db : Database) (tournamentId : Int)
    (profileId : Option Int) :
    ClashCheck (requireFreeProfile db tournamentId profileId)
      (profileEncodes profileId)
      (profileId.any (profileTaken db tournamentId)) :=
  clashCheck_ite ..

theorem requireFreeName_check (db : Database) (tournamentId : Int)
    (name : String) :
    ClashCheck (requireFreeName db tournamentId name) (textEncodes name)
      (nameTaken db tournamentId name) :=
  clashCheck_ite ..

theorem ClashCheck.eq_ok {result : Except Raised Unit} {encodes taken : Bool}
    (hcheck : ClashCheck result encodes taken) :
    result = .ok () ↔ encodes = true ∧ taken = false := by
  cases hcheck with
  | raised hencodes hresult => simp [hencodes, hresult]
  | refused answer hencodes htaken hresult =>
      obtain ⟨raised, hresult, _⟩ := hresult
      simp [htaken, hresult]
  | passed hencodes htaken hresult => simp [hencodes, htaken, hresult]

/-- The two clash checks pass exactly where the request encodes and the
entrant is not there. -/
theorem clash_checks_eq_ok {db : Database} :
    requireFreeProfile db tournamentId payload.profileId = .ok () ∧
        requireFreeName db tournamentId payload.name = .ok () ↔
      payload.encodes = true ∧
        entrantTaken db tournamentId payload = false := by
  rw [(requireFreeProfile_check ..).eq_ok, (requireFreeName_check ..).eq_ok]
  simp only [RosterPlayerCreate.encodes, entrantTaken, Bool.and_eq_true,
    Bool.or_eq_false_iff]
  exact and_and_and_comm

/-- What one statement can do. -/
inductive RosterMove (tournamentId : Int) (payload : RosterPlayerCreate)
    (registry : Registry) : RosterPhase → RosterPhase → Registry → Prop where
  | passed (phase next : RosterPhase) (hphase : phase ≠ .cleared)
      (hbinds : phase.binds payload = true)
      (hnext : ∀ answer, next ≠ .done answer) :
      RosterMove tournamentId payload registry phase next registry
  | raised (phase : RosterPhase) (hbinds : phase.binds payload = false) :
      RosterMove tournamentId payload registry phase
        (.done (httpExceptionHandler .unhandled)) registry
  | refused (phase : RosterPhase) (answer : Except Unhandled Response)
      (hphase : phase ≠ .cleared) (hbinds : phase.binds payload = true)
      (hstatus : 400 ≤ statusOf answer ∧ statusOf answer < 500)
      (hreason : maxRosterRowsPerTournament ≤
          rosterCount registry.db tournamentId ∨
        entrantTaken registry.db tournamentId payload = true) :
      RosterMove tournamentId payload registry phase (.done answer) registry
  | inserted (registry' : Registry)
      (hinsert : insertRosterRow registry tournamentId payload =
        .ok registry') :
      RosterMove tournamentId payload registry .cleared
        (.done (.ok noContent)) registry'
  | failed (error : PyError)
      (hinsert : insertRosterRow registry tournamentId payload =
        .error error) :
      RosterMove tournamentId payload registry .cleared
        (.done (httpExceptionHandler .unhandled)) registry
  | answered (answer : Except Unhandled Response) :
      RosterMove tournamentId payload registry (.done answer) (.done answer)
        registry

/-- A clash check moves its request on, or answers it. -/
theorem RosterMove.of_check {phase next : RosterPhase}
    {result : Except Raised Unit} {taken : Bool}
    (hadvance : phase.advance tournamentId payload registry =
      match result with
      | .error error => (.done (httpExceptionHandler error), registry)
      | .ok _ => (next, registry))
    (hcheck : ClashCheck result (phase.binds payload) taken)
    (hphase : phase ≠ .cleared) (hnext : ∀ answer, next ≠ .done answer)
    (htaken : taken = true →
      entrantTaken registry.db tournamentId payload = true) :
    RosterMove tournamentId payload registry phase
      (phase.advance tournamentId payload registry).1
      (phase.advance tournamentId payload registry).2 := by
  rw [hadvance]
  cases hcheck with
  | raised hbinds hresult =>
      rw [hresult]
      exact .raised _ hbinds
  | refused answer hbinds hclash hresult hstatus =>
      obtain ⟨_, hresult, hanswer⟩ := hresult
      rw [hresult]
      simp only [hanswer]
      exact .refused _ _ hphase hbinds hstatus (.inr (htaken hclash))
  | passed hbinds _ hresult =>
      rw [hresult]
      exact .passed _ _ hphase hbinds hnext

theorem RosterPhase.advance_move (phase : RosterPhase) :
    RosterMove tournamentId payload registry phase
      (phase.advance tournamentId payload registry).1
      (phase.advance tournamentId payload registry).2 := by
  cases phase with
  | arrived =>
      simp only [RosterPhase.advance, requireRosterRoom]
      by_cases hfull :
        maxRosterRowsPerTournament ≤ rosterCount registry.db tournamentId
      · rw [if_pos hfull]
        exact .refused _ _ (by simp) rfl (by decide) (.inl hfull)
      · rw [if_neg hfull]
        exact .passed _ _ (by simp) rfl fun _ => by simp
  | counted =>
      refine .of_check rfl (requireFreeProfile_check registry.db tournamentId
        payload.profileId) (by simp) ?_ fun htaken => ?_
      · simp
      · rw [entrantTaken, htaken, Bool.true_or]
  | unlinked =>
      refine .of_check rfl (requireFreeName_check registry.db tournamentId
        payload.name) (by simp) ?_ fun htaken => ?_
      · simp
      · rw [entrantTaken, htaken, Bool.or_true]
  | cleared =>
      cases hinsert : insertRosterRow registry tournamentId payload with
      | error error =>
          simp only [RosterPhase.advance, hinsert]
          exact .failed error hinsert
      | ok committed =>
          simp only [RosterPhase.advance, hinsert]
          exact .inserted committed hinsert
  | done answer => exact .answered answer

/-- An inserted row adds one entry, the one that was asked for. -/
theorem insertRosterRow_grows (hmanaged : Managed registry)
    (hinsert : insertRosterRow registry tournamentId payload =
      .ok registry') :
    rosterCount registry'.db tournamentId =
        rosterCount registry.db tournamentId + 1 ∧
      registry'.db.tournaments = registry.db.tournaments ∧
      (∀ entry ∈ registry.db.tournamentPlayers.rows,
        entry ∈ registry'.db.tournamentPlayers.rows) ∧
      ∃ entry ∈ registry'.db.tournamentPlayers.rows,
        entry.tournamentId = tournamentId ∧ entry.name = payload.name ∧
          entry.profileId = payload.profileId := by
  obtain ⟨_, _, rfl⟩ := insertRosterRow_ok hinsert
  have hfresh : (rosterEntryOf payload (registry.lastTournamentPlayerId + 1)
      tournamentId).id ∉
        registry.db.tournamentPlayers.rows.map TournamentPlayer.id := by
    intro hmem
    obtain ⟨entry, hentry, hid⟩ := List.mem_map.mp hmem
    have hle := hmanaged.entry_id entry hentry
    have hnew : entry.id = registry.lastTournamentPlayerId + 1 := hid
    omega
  have hrows := registry.db.tournamentPlayers.rows_insertNew (rosterEntryOf
    payload (registry.lastTournamentPlayerId + 1) tournamentId)
  rw [if_neg hfresh] at hrows
  refine ⟨?_, rfl, fun entry hentry => ?_, rosterEntryOf payload
    (registry.lastTournamentPlayerId + 1) tournamentId, ?_, rfl, rfl, rfl⟩
  · simp only [rosterCount, hrows, List.countP_append]
    simp [rosterEntryOf]
  · simp only [hrows]
    exact List.mem_append_left _ hentry
  · simp only [hrows]
    exact List.mem_append_right _ (List.mem_singleton_self _)

theorem insertRosterRow_encodes
    (hinsert : insertRosterRow registry tournamentId payload =
      .ok registry') : payload.encodes = true := by
  unfold insertRosterRow at hinsert
  simp only at hinsert
  split at hinsert
  · cases hinsert
  · next hencodes => simpa using hencodes

/-- With the tournament there, the insert of what encodes only fails on a
clash. -/
theorem insertRosterRow_error {error : PyError}
    (htournament : (registry.db.tournaments.find? tournamentId).isSome)
    (hencodes : payload.encodes = true)
    (hinsert : insertRosterRow registry tournamentId payload =
      .error error) :
    entrantTaken registry.db tournamentId payload = true := by
  unfold insertRosterRow at hinsert
  simp only [hencodes, Bool.not_true, Bool.false_eq_true, ↓reduceIte]
    at hinsert
  split at hinsert
  · next hclash =>
      obtain ⟨t, hfound⟩ := Option.isSome_iff_exists.mp htournament
      simpa [entrantTaken, hfound] using hclash
  · cases hinsert

end Moves

section Races

variable {I : Type u} {tournamentId : Int}
  {payload : I → RosterPlayerCreate} {σ σ' : RosterRace I} {i : I}

/-- What every interleaving keeps: who was added holds an entry, who was
refused met a full roster or the entrant. -/
structure AddsKept (tournamentId : Int) (payload : I → RosterPlayerCreate)
    (σ : RosterRace I) : Prop where
  managed : Managed σ.registry
  tournament : (σ.registry.db.tournaments.find? tournamentId).isSome
  ceiling : rosterCount σ.registry.db tournamentId ≤ maxRosterRowsPerTournament
  answered : ∀ i answer, σ.phase i = .done answer →
    statusOf answer = 204 ∨ 400 ≤ statusOf answer ∧ statusOf answer < 500
  held : ∀ i, (σ.phase i).Added →
    ∃ entry ∈ σ.registry.db.tournamentPlayers.rows,
      entry.tournamentId = tournamentId ∧ entry.name = (payload i).name ∧
        entry.profileId = (payload i).profileId
  refused : ∀ i answer, σ.phase i = .done answer → (σ.phase i).Added ∨
    maxRosterRowsPerTournament ≤ rosterCount σ.registry.db tournamentId ∨
    entrantTaken σ.registry.db tournamentId (payload i) = true
  exclusive : ∀ i j, i ≠ j → SameEntrant (payload i) (payload j) →
    (σ.phase i).Added → ¬ (σ.phase j).Added

theorem SameEntrant.symm {left right : RosterPlayerCreate}
    (hsame : SameEntrant left right) : SameEntrant right left := by
  rcases hsame with hname | ⟨hprofile, hlinked⟩
  · exact .inl hname.symm
  · exact .inr ⟨hprofile.symm, hprofile ▸ hlinked⟩

theorem AddsKept.taken (hkept : AddsKept tournamentId payload σ) {j : I}
    (hadded : (σ.phase j).Added) (hsame : SameEntrant (payload i) (payload j)) :
    entrantTaken σ.registry.db tournamentId (payload i) = true := by
  obtain ⟨entry, hentry, hid, hname, hprofile⟩ := hkept.held j hadded
  refine entrantTaken_eq_true.mpr ⟨entry, hentry, hid, ?_⟩
  rcases hsame with hnames | ⟨hprofiles, hlinked⟩
  · exact .inr (hname.trans hnames.symm)
  · exact .inl ⟨hprofile.trans hprofiles.symm, hlinked⟩

theorem AddsKept.addsSettled (hkept : AddsKept tournamentId payload σ) :
    AddsSettled tournamentId payload σ := by
  refine ⟨hkept.ceiling, hkept.answered, hkept.exclusive, ?_⟩
  intro i j answer answer' _ _ hi _
  rcases hkept.refused i answer hi with hadded | hfull | htaken
  · exact .inl hadded
  · exact .inr (.inr (.inl hfull))
  · exact .inr (.inr (.inr (.inl htaken)))

/-- A request that is refused, or gets on without an answer, changes nothing
that is kept. -/
theorem AddsKept.of_phase (hkept : AddsKept tournamentId payload σ)
    {phase : I → RosterPhase}
    (hphase : ∀ j answer, phase j = .done answer → σ.phase j = .done answer ∨
      (400 ≤ statusOf answer ∧ statusOf answer < 500) ∧
        (maxRosterRowsPerTournament ≤ rosterCount σ.registry.db tournamentId ∨
          entrantTaken σ.registry.db tournamentId (payload j) = true)) :
    AddsKept tournamentId payload ⟨σ.registry, phase⟩ := by
  have hadded : ∀ j, (phase j).Added → (σ.phase j).Added := by
    rintro j ⟨answer, hdone, hstatus⟩
    rcases hphase j answer hdone with hold | ⟨⟨hrefused, _⟩, _⟩
    · exact ⟨answer, hold, hstatus⟩
    · omega
  refine { hkept with
    answered := ?_, held := ?_, refused := ?_, exclusive := ?_ }
  · intro j answer hdone
    rcases hphase j answer hdone with hold | ⟨hstatus, _⟩
    · exact hkept.answered j answer hold
    · exact .inr hstatus
  · exact fun j hj => hkept.held j (hadded j hj)
  · intro j answer hdone
    rcases hphase j answer hdone with hold | ⟨_, hreason⟩
    · rcases hkept.refused j answer hold with ⟨answer', hsame, hstatus⟩ | hreason
      · cases hold.symm.trans hsame
        exact .inl ⟨answer, hdone, hstatus⟩
      · exact .inr hreason
    · exact .inr hreason
  · exact fun j k hne hsame hj hk =>
      hkept.exclusive j k hne hsame (hadded j hj) (hadded k hk)

variable [DecidableEq I]

/-- An insert whose checks hold keeps everything. -/
theorem AddsKept.insert (hkept : AddsKept tournamentId payload σ)
    {registry : Registry}
    (hroom : rosterCount σ.registry.db tournamentId <
      maxRosterRowsPerTournament)
    (hfree : entrantTaken σ.registry.db tournamentId (payload i) = false)
    (hinsert : insertRosterRow σ.registry tournamentId (payload i) =
      .ok registry) :
    AddsKept tournamentId payload
      ⟨registry, Function.update σ.phase i (.done (.ok noContent))⟩ := by
  obtain ⟨hcount, htournaments, hgrows, hnew⟩ :=
    insertRosterRow_grows hkept.managed hinsert
  have hself : (Function.update σ.phase i
      (.done (.ok noContent)) i).Added :=
    ⟨.ok noContent, Function.update_self .., rfl⟩
  have hother : ∀ j, j ≠ i → Function.update σ.phase i
      (.done (.ok noContent)) j = σ.phase j :=
    fun j hne => Function.update_of_ne hne ..
  constructor
  · exact (insertRosterRow_keeps hkept.managed hinsert).managed
  · exact htournaments ▸ hkept.tournament
  · exact hcount ▸ hroom
  · intro j answer hdone
    by_cases hji : j = i
    · subst hji
      simp only [Function.update_self, RosterPhase.done.injEq] at hdone
      exact .inl (hdone ▸ rfl)
    · exact hkept.answered j answer ((hother j hji).symm.trans hdone)
  · intro j hadded
    by_cases hji : j = i
    · exact hji ▸ hnew
    · simp only [hother j hji] at hadded
      obtain ⟨entry, hentry, hheld⟩ := hkept.held j hadded
      exact ⟨entry, hgrows entry hentry, hheld⟩
  · intro j answer hdone
    by_cases hji : j = i
    · exact .inl (hji ▸ hself)
    · simp only [hother j hji] at hdone ⊢
      rcases hkept.refused j answer hdone with hadded | hfull | htaken
      · exact .inl hadded
      · exact .inr (.inl (hcount ▸ Nat.le_succ_of_le hfull))
      · obtain ⟨entry, hentry, hclash⟩ := entrantTaken_eq_true.mp htaken
        exact .inr (.inr (entrantTaken_eq_true.mpr
          ⟨entry, hgrows entry hentry, hclash⟩))
  · -- whoever clashes with the new entry was not added before
    intro j k hne hsame hj hk
    by_cases hji : j = i
    · subst hji
      simp only [hother k (Ne.symm hne)] at hk
      exact Bool.eq_false_iff.mp hfree (hkept.taken hk hsame)
    · simp only [hother j hji] at hj
      by_cases hki : k = i
      · subst hki
        exact Bool.eq_false_iff.mp hfree (hkept.taken hj hsame.symm)
      · simp only [hother k hki] at hk
        exact hkept.exclusive j k hne hsame hj hk

theorem RosterStep.move (hstep : RosterStep tournamentId payload σ i σ') :
    ∃ next, σ'.phase = Function.update σ.phase i next ∧
      RosterMove tournamentId (payload i) σ.registry (σ.phase i) next
        σ'.registry := by
  cases hstep
  exact ⟨_, rfl, (σ.phase i).advance_move⟩

theorem AddsKept.step (hkept : AddsKept tournamentId payload σ)
    (hguard : ChecksHold tournamentId payload σ i)
    (hstep : RosterStep tournamentId payload σ i σ') :
    AddsKept tournamentId payload σ' := by
  obtain ⟨next, hnext, hmove⟩ := hstep.move
  obtain ⟨registry', phase'⟩ := σ'
  obtain rfl : phase' = Function.update σ.phase i next := hnext
  generalize hphase : σ.phase i = phase at hmove
  cases hmove with
  | passed _ _ _ _ hpending =>
      apply hkept.of_phase
      intro j answer hdone
      by_cases hji : j = i
      · subst hji
        simp only [Function.update_self] at hdone
        exact absurd hdone (hpending answer)
      · simp only [Function.update_of_ne hji] at hdone
        exact .inl hdone
  | raised _ hbinds =>
      have hbound := hguard.binds
      rw [hphase, hbinds] at hbound
      cases hbound
  | refused _ answer _ _ hstatus hreason =>
      apply hkept.of_phase
      intro j answer' hdone
      by_cases hji : j = i
      · subst hji
        simp only [Function.update_self, RosterPhase.done.injEq] at hdone
        rw [← hdone]
        exact .inr ⟨hstatus, hreason⟩
      · simp only [Function.update_of_ne hji] at hdone
        exact .inl hdone
  | inserted _ hinsert =>
      obtain ⟨hroom, hclash⟩ := hguard.insert hphase
      exact hkept.insert (requireRosterRoom_eq_ok.mp hroom)
        (clash_checks_eq_ok.mp hclash).2 hinsert
  | failed error hinsert =>
      -- the check that held is the constraint that would fail
      obtain ⟨_, hclash⟩ := hguard.insert hphase
      obtain ⟨hencodes, hfree⟩ := clash_checks_eq_ok.mp hclash
      have htaken := insertRosterRow_error hkept.tournament hencodes hinsert
      rw [hfree] at htaken
      cases htaken
  | answered answer =>
      apply hkept.of_phase
      intro j answer' hdone
      rw [← hphase, Function.update_eq_self] at hdone
      exact .inl hdone

/-- A step keeps what additions are to leave exactly where what it binds
encodes and the checks of the row it inserts still hold. -/
theorem AddsKept.settled_iff (hkept : AddsKept tournamentId payload σ)
    (hstep : RosterStep tournamentId payload σ i σ') :
    AddsSettled tournamentId payload σ' ↔
      ChecksHold tournamentId payload σ i := by
  refine ⟨fun hsettled => ?_,
    fun hguard => (hkept.step hguard hstep).addsSettled⟩
  obtain ⟨next, hnext, hmove⟩ := hstep.move
  obtain ⟨registry', phase'⟩ := σ'
  obtain rfl : phase' = Function.update σ.phase i next := hnext
  have hunhandled : next ≠ .done (httpExceptionHandler .unhandled) := by
    rintro rfl
    have hanswered := hsettled.answered i _ (Function.update_self ..)
    exact absurd hanswered (by decide)
  generalize hphase : σ.phase i = phase at hmove
  cases hmove with
  | passed _ _ hpending hbinds =>
      exact ⟨hphase ▸ hbinds,
        fun hcleared => absurd (hphase.symm.trans hcleared) hpending⟩
  | refused _ _ hpending hbinds =>
      exact ⟨hphase ▸ hbinds,
        fun hcleared => absurd (hphase.symm.trans hcleared) hpending⟩
  | inserted _ hinsert =>
      have hcount : rosterCount registry'.db tournamentId =
          rosterCount σ.registry.db tournamentId + 1 :=
        (insertRosterRow_grows hkept.managed hinsert).1
      obtain ⟨hprofile, hname, _⟩ := insertRosterRow_ok hinsert
      have hceiling : rosterCount registry'.db tournamentId ≤
          maxRosterRowsPerTournament := hsettled.ceiling
      refine ⟨hphase ▸ rfl, fun _ => ⟨requireRosterRoom_eq_ok.mpr (by omega),
        clash_checks_eq_ok.mpr ⟨insertRosterRow_encodes hinsert, ?_⟩⟩⟩
      rw [entrantTaken, hprofile, hname, Bool.or_false]
  | raised | failed => exact absurd rfl hunhandled
  | answered answer =>
      exact ⟨hphase ▸ rfl, fun hcleared => by
        cases hphase.symm.trans hcleared⟩

theorem RosterStep.unchanged (hstep : RosterStep tournamentId payload σ i σ')
    (hrefused : ¬ (σ'.phase i).Added) : σ'.registry = σ.registry := by
  obtain ⟨next, hnext, hmove⟩ := hstep.move
  obtain ⟨registry', phase'⟩ := σ'
  obtain rfl : phase' = Function.update σ.phase i next := hnext
  generalize hphase : σ.phase i = phase at hmove
  cases hmove with
  | inserted _ hinsert =>
      exact absurd ⟨.ok noContent, Function.update_self .., rfl⟩ hrefused
  | _ => rfl

/-- However additions interleave, they leave the roster under its ceiling and
every entrant added once, while what they bind encodes and the checks of each
row still hold when it is inserted; the first step where that fails overruns
the ceiling or is answered with an error.  A refused request leaves the state
as it was. -/
theorem roster_additions_settle {start : RosterRace I} {acts : List I}
    (harrived : ∀ i, start.phase i = .arrived)
    (hmanaged : Managed start.registry)
    (htournament : (start.registry.db.tournaments.find? tournamentId).isSome)
    (hceiling : rosterCount start.registry.db tournamentId ≤
      maxRosterRowsPerTournament)
    (hrun : Run (Guarded (ChecksHold tournamentId payload)
      (RosterStep tournamentId payload)) start acts σ) :
    AddsSettled tournamentId payload σ ∧
      ∀ i σ', RosterStep tournamentId payload σ i σ' →
        (AddsSettled tournamentId payload σ' ↔
          ChecksHold tournamentId payload σ i) ∧
        (¬ (σ'.phase i).Added → σ'.registry = σ.registry) := by
  have hkept : AddsKept tournamentId payload σ := by
    apply hrun.invariant (AddsKept tournamentId payload)
    · have hpending : ∀ i answer, start.phase i ≠ .done answer := by
        intro i answer hdone
        rw [harrived i] at hdone
        cases hdone
      have hadded : ∀ i, ¬ (start.phase i).Added :=
        fun i ⟨answer, hdone, _⟩ => hpending i answer hdone
      exact ⟨hmanaged, htournament, hceiling,
        fun i answer hdone => absurd hdone (hpending i answer),
        fun i hi => absurd hi (hadded i),
        fun i answer hdone => absurd hdone (hpending i answer),
        fun i _ _ _ hi => absurd hi (hadded i)⟩
    · rintro before i after hkept ⟨hguard, hstep⟩
      exact hkept.step hguard hstep
  exact ⟨hkept.addsSettled, fun _ _ hstep =>
    ⟨hkept.settled_iff hstep, hstep.unchanged⟩⟩

end Races

namespace RosterRaceWitness

open ManagementWitness ManagementRunWitness

/-- A tournament without entries. -/
def created : Registry :=
  after [request (.createTournament (.ok springCup))]

/-- Two requests that add the same name. -/
def alices (_ : Bool) : RosterPlayerCreate := alice

def start : RosterRace Bool := ⟨created, fun _ => .arrived⟩

def advance (σ : RosterRace Bool) (i : Bool) : RosterRace Bool where
  registry := ((σ.phase i).advance 1 (alices i) σ.registry).2
  phase := Function.update σ.phase i
    ((σ.phase i).advance 1 (alices i) σ.registry).1

theorem managed_start : Managed start.registry :=
  managed_of_run noTournaments
    (run_after (fun _ _ => True) _ fun _ _ _ => trivial).unguarded

theorem guarded_add :
    Run (Guarded (ChecksHold 1 alices) (RosterStep 1 alices)) start
      ([] ++ [false] ++ [false] ++ [false] ++ [false])
      ([false, false, false, false].foldl advance start) := by
  have hcounted : ([false].foldl advance start).phase false = .counted := rfl
  have hunlinked : ([false, false].foldl advance start).phase false =
      .unlinked := rfl
  have hcount : ChecksHold 1 alices start false := ⟨rfl, nofun⟩
  have hprofile : ChecksHold 1 alices ([false].foldl advance start) false :=
    ⟨rfl, fun hphase => by cases hcounted.symm.trans hphase⟩
  have hname : ChecksHold 1 alices ([false, false].foldl advance start)
      false :=
    ⟨by decide, fun hphase => by cases hunlinked.symm.trans hphase⟩
  have hinsert : ChecksHold 1 alices
      ([false, false, false].foldl advance start) false :=
    ⟨rfl, fun _ => ⟨rfl, rfl,
      (requireFreeName_check ..).eq_ok.mpr ⟨by decide, by decide⟩⟩⟩
  exact (((Run.refl.snoc ⟨hcount, .advance start false⟩).snoc
    ⟨hprofile, .advance _ false⟩).snoc ⟨hname, .advance _ false⟩).snoc
      ⟨hinsert, .advance _ false⟩

end RosterRaceWitness

open RosterRaceWitness in
/-- The first request alone is answered with success and adds its entry. -/
theorem roster_additions_settle_alone :
    rosterCount ([false, false, false, false].foldl advance
        start).registry.db 1 = 1 ∧
      AddsSettled 1 alices ([false, false, false, false].foldl advance start) :=
  ⟨by decide, (roster_additions_settle (fun _ => rfl) managed_start rfl
    (by decide) guarded_add).1⟩

open RosterRaceWitness in
/-- Two requests for one name that both pass their checks before either inserts:
the second is answered with an unhandled error. -/
theorem name_added_twice :
    ¬ ∀ (tournamentId : Int) (payload : Bool → RosterPlayerCreate)
      (start σ : RosterRace Bool) (acts : List Bool),
        (∀ i, start.phase i = .arrived) → Managed start.registry →
          (start.registry.db.tournaments.find? tournamentId).isSome →
            rosterCount start.registry.db tournamentId ≤
                maxRosterRowsPerTournament →
              Run (RosterStep tournamentId payload) start acts σ →
                AddsSettled tournamentId payload σ := by
  intro hclaim
  have hrun : Run (RosterStep 1 alices) start
      ([false, true, false, true, false, true, false, true].map id)
      ([false, true, false, true, false, true, false, true].foldl advance
        start) :=
    Run.foldl id advance _ fun _ i _ => .advance _ i
  have hsettled := hclaim 1 alices start _ _ (fun _ => rfl) managed_start rfl
    (by decide) hrun
  have hdone : ([false, true, false, true, false, true, false, true].foldl
      advance start).phase true = .done (httpExceptionHandler .unhandled) := rfl
  exact absurd (hsettled.answered true _ hdone) (by decide)

end LiveStandings
