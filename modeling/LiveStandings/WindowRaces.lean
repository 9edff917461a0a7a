/-
Edits of a competition window in flight.  A request reads its row, validates
the row in memory and commits the columns it changed, with nothing held in
between; so a bound can be committed next to one it was never checked
against.
-/
import LiveStandings.ManagementRuns
import Mathlib.Logic.Function.Basic

namespace LiveStandings

open KeyedTable PyJson Runs Fallible

universe u

/-- What `update_tournament` checks before it commits. -/
def validateUpdate (loaded : Tournament) (payload : TournamentUpdate)
    (db : Database) : Except Raised Unit := do
  requireSupportedChange db payload.leaderboardId
  requireOrderedWindow (mergedDate loaded.startDate payload.startDate)
    (mergedDate loaded.endDate payload.endDate)

/-- What `update_tournament` commits. -/
def commitUpdate (platform : Platform) (loaded : Tournament)
    (payload : TournamentUpdate) (registry : Registry) :
    Except Raised (Response × Registry) :=
  let db := registry.db
  let response := jsonResponse 200
    (serializeTournament platform (payload.merged loaded)
      (hostStreamLiveTournaments db)) final_200
  if !payload.dirty loaded then .ok (response, registry)
  else
    match db.tournaments.find? loaded.id with
    | none => .error .unhandled
    | some stored =>
        .ok (response, { registry with
          db := { db with
            tournaments :=
              db.tournaments.overwrite (payload.update loaded stored) } })

/-- Uninterrupted, the two are `update_tournament`. -/
theorem updateTournament_eq (platform : Platform) (loaded : Tournament)
    (payload : TournamentUpdate) (registry : Registry) :
    updateTournament platform loaded payload registry =
      validateUpdate loaded payload registry.db >>= fun _ =>
        commitUpdate platform loaded payload registry := by
  unfold updateTournament validateUpdate
  rw [bind_assoc]
  rfl

/-- What `create_tournament` checks before its insert. -/
def validateCreate (userId : String) (payload : TournamentCreate)
    (db : Database) : Except Raised Unit :=
  if !approvedCreator db userId then
    .error (httpException 403
      ("Tournament creation requires operator approval — this account " ++
        "is not on the creator allowlist") final_403)
  else
    let ownedCount := db.tournamentOwners.rows.countP (·.userId = userId)
    if maxOwnedTournamentsPerCreator ≤ ownedCount then
      .error (httpException 422
        ("This account already holds owner rows for " ++
          toString ownedCount ++ " tournaments — the per-creator ceiling is " ++
          toString maxOwnedTournamentsPerCreator ++
          ". Contact the platform operator if you genuinely need more.")
        final_422)
    else do
      requireOrderedWindow payload.startDate payload.endDate
      requireSupportedLeaderboard db payload.leaderboardId
      if db.tournaments.rows.any (·.slug = payload.slug) then
        .error (httpException 409
          ("Tournament '" ++ payload.slug ++ "' already exists") final_409)
      else .ok ()

/-- The insert of `create_tournament`; `slug` is unique. -/
def commitCreate (platform : Platform) (userId : String)
    (payload : TournamentCreate) (registry : Registry) :
    Except Raised (Response × Registry) :=
  let db := registry.db
  if db.tournaments.rows.any (·.slug = payload.slug) then .error .unhandled
  else
    let id := registry.lastTournamentId + 1
    let tournament := tournamentOf payload id registry.now
    .ok (jsonResponse 201 (serializeTournament platform tournament [])
        final_201,
      { registry with
        lastTournamentId := id
        db := { db with
          tournaments := db.tournaments.insertNew tournament
          tournamentOwners := db.tournamentOwners.insertNew
            ⟨id, userId, registry.now⟩ } })

/-- Uninterrupted, the two are `create_tournament`. -/
theorem createTournamentRow_eq (platform : Platform) (userId : String)
    (payload : TournamentCreate) (registry : Registry) :
    createTournamentRow platform userId payload registry =
      validateCreate userId payload registry.db >>= fun _ =>
        commitCreate platform userId payload registry := by
  unfold createTournamentRow createTournament validateCreate
  simp only
  split
  · rfl
  · split
    · rfl
    · cases requireOrderedWindow payload.startDate payload.endDate with
      | error raised => rfl
      | ok _ =>
          cases requireSupportedLeaderboard registry.db
            payload.leaderboardId with
          | error raised => rfl
          | ok _ =>
              by_cases hslug : registry.db.tournaments.rows.any
                (·.slug = payload.slug) = true
              · simp only [bind, Except.bind, hslug, ↓reduceIte]
                rfl
              · simp only [bind, Except.bind, commitCreate, hslug]
                rfl

/-- A request that writes a window. -/
inductive WindowRequest where
  | create (http : Request) (payload : Except BodyError TournamentCreate)
  | update (http : Request) (slug : String)
      (payload : Except BodyError TournamentUpdate)

/-- Where such a request stands, and what it holds in memory. -/
inductive WindowPhase where
  | arrived
  | admitted (userId : String) (payload : TournamentCreate)
  | checked (userId : String) (payload : TournamentCreate)
  | loaded (row : Tournament) (payload : TournamentUpdate)
  | validated (row : Tournament) (payload : TournamentUpdate)
  | done (answer : Except Unhandled Response)

/-- The next step of a request: its gate, which reads the row of an edit; its
checks; its commit. -/
def WindowPhase.advance (platform : Platform) (request : WindowRequest)
    (registry : Registry) : WindowPhase → WindowPhase × Registry
  | arrived =>
      match request with
      | .create http payload =>
          match LiveStandings.admitted
            (getCurrentUserId platform http registry.toBackend)
            "create_tournament" 5 payload http registry with
          | .error answer => (done answer, registry)
          | .ok (userId, payload, counted) => (admitted userId payload, counted)
      | .update http slug payload =>
          match ownerRoute platform http registry slug "update_tournament" 20
            payload with
          | .error answer => (done answer, registry)
          | .ok (row, payload, counted) => (loaded row payload, counted)
  | admitted userId payload =>
      match validateCreate userId payload registry.db with
      | .error raised => (done (httpExceptionHandler raised), registry)
      | .ok _ => (checked userId payload, registry)
  | checked userId payload =>
      match commitCreate platform userId payload registry with
      | .error raised => (done (httpExceptionHandler raised), registry)
      | .ok (response, committed) => (done (.ok response), committed)
  | loaded row payload =>
      match validateUpdate row payload registry.db with
      | .error raised => (done (httpExceptionHandler raised), registry)
      | .ok _ => (validated row payload, registry)
  | validated row payload =>
      match commitUpdate platform row payload registry with
      | .error raised => (done (httpExceptionHandler raised), registry)
      | .ok (response, committed) => (done (.ok response), committed)
  | done answer => (done answer, registry)

/-- The committed state and every request in flight. -/
structure WindowRace (I : Type u) where
  registry : Registry
  phase : I → WindowPhase

/-- A step of one request, or of anybody else. -/
inductive WindowAct (I : Type u) where
  | advance (i : I)
  | other

/-- The steps.  The other routes and the pollers write no tournament row; at
most they delete one. -/
inductive WindowStep {I : Type u} [DecidableEq I] (platform : Platform)
    (requests : I → WindowRequest) :
    WindowRace I → WindowAct I → WindowRace I → Prop where
  | advance (σ : WindowRace I) (i : I) :
      WindowStep platform requests σ (.advance i)
        { registry :=
            ((σ.phase i).advance platform (requests i) σ.registry).2
          phase := Function.update σ.phase i
            ((σ.phase i).advance platform (requests i) σ.registry).1 }
  | other (σ : WindowRace I) (registry : Registry)
      (hrows : ∀ t ∈ registry.db.tournaments.rows,
        t ∈ σ.registry.db.tournaments.rows) :
      WindowStep platform requests σ .other { σ with registry := registry }

/-- Where both bounds are set, the window opens before it closes. -/
def OrderedWindow (startDate endDate : Option Instant) : Prop :=
  ∀ start stop, startDate = some start → endDate = some stop → start ≤ stop

/-- No stored window is inverted. -/
def OrderedWindows (db : Database) : Prop :=
  ∀ t ∈ db.tournaments.rows, OrderedWindow t.startDate t.endDate

/-- An edit that writes one bound and not the other finds the other one in
order with it. -/
structure OrderedAtCommit (loaded : Tournament) (payload : TournamentUpdate)
    (stored : Tournament) : Prop where
  start : dateChanged loaded.startDate payload.startDate = true →
    dateChanged loaded.endDate payload.endDate = false →
      OrderedWindow (payload.merged loaded).startDate stored.endDate
  stop : dateChanged loaded.startDate payload.startDate = false →
    dateChanged loaded.endDate payload.endDate = true →
      OrderedWindow stored.startDate (payload.merged loaded).endDate

/-- Every commit of an edit meets `OrderedAtCommit`. -/
def CommitsInOrder {I : Type u} (σ : WindowRace I) : WindowAct I → Prop
  | .advance i => ∀ row payload stored, σ.phase i = .validated row payload →
      σ.registry.db.tournaments.find? row.id = some stored →
        OrderedAtCommit row payload stored
  | .other => True

/-- What a request past its checks has checked. -/
def WindowPhase.Checked : WindowPhase → Prop
  | checked _ payload =>
      requireOrderedWindow payload.startDate payload.endDate = .ok ()
  | validated row payload =>
      requireOrderedWindow (mergedDate row.startDate payload.startDate)
        (mergedDate row.endDate payload.endDate) = .ok ()
  | _ => True

theorem orderedWindow_of_require {startDate endDate : Option Datetime}
    (hok : requireOrderedWindow startDate endDate = .ok ()) :
    OrderedWindow (startDate.map Datetime.stored)
      (endDate.map Datetime.stored) := by
  intro start stop hstart hstop
  obtain ⟨first, rfl, rfl⟩ := Option.map_eq_some_iff.mp hstart
  obtain ⟨last, rfl, rfl⟩ := Option.map_eq_some_iff.mp hstop
  rw [requireOrderedWindow] at hok
  cases first with
  | aware first =>
      cases last with
      | aware last =>
          by_cases hle : first ≤ last
          · exact hle
          · simp [Datetime.after, not_le.mp hle] at hok
      | naive last => cases hok
  | naive first =>
      cases last with
      | aware last => cases hok
      | naive last =>
          by_cases hle : first ≤ last
          · exact hle
          · simp [Datetime.after, not_le.mp hle] at hok

theorem mergedDate_of_unchanged {loaded : Option Instant}
    {change : Option (Option Datetime)}
    (hsame : dateChanged loaded change = false) :
    (mergedDate loaded change).map Datetime.stored = loaded := by
  unfold dateChanged at hsame
  rw [mergedDate]
  split at hsame
  · cases loaded <;> rfl
  · simp only [Option.isSome_eq_false_iff, Option.isNone_iff_eq_none] at hsame
    rw [hsame]
    rfl
  · simp only [ne_eq, decide_not, Bool.not_eq_false', decide_eq_true_eq]
      at hsame
    rw [hsame]
    rfl
  · cases hsame

section Commits

variable {platform : Platform} {loaded stored : Tournament}
  {payload : TournamentUpdate}

/-- The row an edit commits is in order exactly if what it writes is in order
with what it leaves. -/
theorem orderedWindow_update_iff
    (hvalid : requireOrderedWindow (mergedDate loaded.startDate payload.startDate)
      (mergedDate loaded.endDate payload.endDate) = .ok ())
    (hstored : OrderedWindow stored.startDate stored.endDate) :
    OrderedWindow (payload.update loaded stored).startDate
        (payload.update loaded stored).endDate ↔
      OrderedAtCommit loaded payload stored := by
  have hmerged : OrderedWindow (payload.merged loaded).startDate
      (payload.merged loaded).endDate := orderedWindow_of_require hvalid
  cases hstart : dateChanged loaded.startDate payload.startDate <;>
    cases hstop : dateChanged loaded.endDate payload.endDate
  · -- neither bound is written
    simp only [TournamentUpdate.update, updatedColumn, hstart, hstop]
    exact iff_of_true hstored ⟨by simp [hstart], by simp [hstop]⟩
  · simp only [TournamentUpdate.update, updatedColumn, hstart, hstop]
    exact ⟨fun hordered => ⟨by simp [hstart], fun _ _ => hordered⟩,
      fun hguard => hguard.stop hstart hstop⟩
  · simp only [TournamentUpdate.update, updatedColumn, hstart, hstop]
    exact ⟨fun hordered => ⟨fun _ _ => hordered, by simp [hstart]⟩,
      fun hguard => hguard.start hstart hstop⟩
  · -- both bounds are written, as they were checked
    simp only [TournamentUpdate.update, updatedColumn, hstart, hstop]
    exact iff_of_true hmerged ⟨by simp [hstop], by simp [hstart]⟩

theorem OrderedAtCommit.of_unchanged
    (hvalid : requireOrderedWindow (mergedDate loaded.startDate payload.startDate)
      (mergedDate loaded.endDate payload.endDate) = .ok ())
    (hstart : stored.startDate = loaded.startDate)
    (hstop : stored.endDate = loaded.endDate) :
    OrderedAtCommit loaded payload stored := by
  have hmerged : OrderedWindow (payload.merged loaded).startDate
      (payload.merged loaded).endDate := orderedWindow_of_require hvalid
  constructor
  · intro _ hsame
    rw [hstop, ← mergedDate_of_unchanged hsame]
    exact hmerged
  · intro hsame _
    rw [hstart, ← mergedDate_of_unchanged hsame]
    exact hmerged

theorem validateUpdate_ok {db : Database}
    (hok : validateUpdate loaded payload db = .ok ()) :
    requireOrderedWindow (mergedDate loaded.startDate payload.startDate)
      (mergedDate loaded.endDate payload.endDate) = .ok () := by
  obtain ⟨_, _, hwindow⟩ := bind_eq_ok.mp hok
  exact hwindow

theorem validateCreate_ok {userId : String} {payload : TournamentCreate}
    {db : Database} (hok : validateCreate userId payload db = .ok ()) :
    requireOrderedWindow payload.startDate payload.endDate = .ok () := by
  rw [validateCreate] at hok
  simp only at hok
  split at hok
  · cases hok
  · split at hok
    · cases hok
    · obtain ⟨_, hwindow, _⟩ := bind_eq_ok.mp hok
      exact hwindow

theorem commitUpdate_ok {registry registry' : Registry} {response : Response}
    (hok : commitUpdate platform loaded payload registry =
      .ok (response, registry')) :
    (registry' = registry ∧ payload.dirty loaded = false) ∨ ∃ stored,
      registry.db.tournaments.find? loaded.id = some stored ∧
        registry' = { registry with
          db := { registry.db with
            tournaments := registry.db.tournaments.overwrite
              (payload.update loaded stored) } } := by
  unfold commitUpdate at hok
  simp only at hok
  split at hok
  · next hclean =>
      cases hok
      exact Or.inl ⟨rfl, by simpa using hclean⟩
  · split at hok
    · cases hok
    · next stored hstored =>
        cases hok
        exact Or.inr ⟨stored, hstored, rfl⟩

theorem commitUpdate_error {registry : Registry} {raised : Raised}
    (herror : commitUpdate platform loaded payload registry = .error raised) :
    registry.db.tournaments.find? loaded.id = none := by
  unfold commitUpdate at herror
  simp only at herror
  split at herror
  · cases herror
  · split at herror
    · next hnone => exact hnone
    · cases herror

theorem OrderedAtCommit.of_clean (hclean : payload.dirty loaded = false) :
    OrderedAtCommit loaded payload stored := by
  simp only [TournamentUpdate.dirty, Bool.or_eq_false_iff] at hclean
  exact ⟨by simp [hclean], by simp [hclean]⟩

theorem commitCreate_ok {userId : String} {payload : TournamentCreate}
    {registry registry' : Registry} {response : Response}
    (hok : commitCreate platform userId payload registry =
      .ok (response, registry')) :
    registry'.db.tournaments = registry.db.tournaments.insertNew
      (tournamentOf payload (registry.lastTournamentId + 1) registry.now) := by
  rw [commitCreate] at hok
  simp only at hok
  split at hok
  · cases hok
  · cases hok
    rfl

end Commits

section Races

variable {I : Type u} [DecidableEq I] {platform : Platform}
  {requests : I → WindowRequest} {σ σ' : WindowRace I} {act : WindowAct I}

theorem WindowPhase.Checked.advance {phase : WindowPhase}
    (request : WindowRequest) (registry : Registry) :
    (phase.advance platform request registry).1.Checked := by
  cases phase with
  | arrived =>
      cases request with
      | create http payload =>
          simp only [WindowPhase.advance]
          split <;> trivial
      | update http slug payload =>
          simp only [WindowPhase.advance]
          split <;> trivial
  | admitted userId payload =>
      simp only [WindowPhase.advance]
      split
      · trivial
      · next hvalid => exact validateCreate_ok hvalid
  | checked userId payload =>
      simp only [WindowPhase.advance]
      split <;> trivial
  | loaded row payload =>
      simp only [WindowPhase.advance]
      split
      · trivial
      · next hvalid => exact validateUpdate_ok hvalid
  | validated row payload =>
      simp only [WindowPhase.advance]
      split <;> trivial
  | done answer => trivial

/-- The commit of a checked edit leaves the windows in order exactly if the
edit is in order with what it finds stored. -/
theorem commitUpdate_ordered {row : Tournament} {payload : TournamentUpdate}
    (hchecked : (WindowPhase.validated row payload).Checked)
    {registry committed : Registry} (hordered : OrderedWindows registry.db)
    {response : Response}
    (hok : commitUpdate platform row payload registry =
      .ok (response, committed)) :
    OrderedWindows committed.db ↔ ∀ stored,
      registry.db.tournaments.find? row.id = some stored →
        OrderedAtCommit row payload stored := by
  rcases commitUpdate_ok hok with ⟨rfl, hclean⟩ | ⟨stored, hfind, rfl⟩
  · exact iff_of_true hordered fun _ _ => .of_clean hclean
  · have hrow := orderedWindow_update_iff hchecked
      (hordered stored (Table.mem_of_find? _ hfind))
    constructor
    · intro hafter stored' hfind'
      cases hfind.symm.trans hfind'
      exact hrow.mp (hafter _ ((Table.mem_overwrite _).mpr (.inl rfl)))
    · intro hguard t ht
      rcases (Table.mem_overwrite _).mp ht with rfl | ⟨hold, _⟩
      · exact hrow.mpr (hguard stored hfind)
      · exact hordered t hold

/-- A step of a request leaves the windows in order exactly if the edit it
commits, if it commits one, is in order. -/
theorem WindowPhase.Checked.advance_ordered {phase : WindowPhase}
    (hchecked : phase.Checked) (request : WindowRequest) {registry : Registry}
    (hordered : OrderedWindows registry.db) :
    OrderedWindows (phase.advance platform request registry).2.db ↔
      ∀ row payload stored, phase = .validated row payload →
        registry.db.tournaments.find? row.id = some stored →
          OrderedAtCommit row payload stored := by
  cases phase with
  | arrived =>
      refine iff_of_true ?_ fun _ _ _ hphase => by cases hphase
      cases request with
      | create http payload =>
          simp only [WindowPhase.advance]
          split
          · exact hordered
          · next hadmitted =>
              obtain ⟨_, _, hits, rfl⟩ := admitted_ok hadmitted
              exact hordered
      | update http slug payload =>
          simp only [WindowPhase.advance]
          split
          · exact hordered
          · next hadmitted =>
              obtain ⟨_, _, hits, rfl⟩ := admitted_ok hadmitted
              exact hordered
  | admitted userId payload =>
      refine iff_of_true ?_ fun _ _ _ hphase => by cases hphase
      simp only [WindowPhase.advance]
      split <;> exact hordered
  | checked userId payload =>
      refine iff_of_true ?_ fun _ _ _ hphase => by cases hphase
      simp only [WindowPhase.advance]
      split
      · exact hordered
      · next response committed hok =>
          intro t ht
          rw [commitCreate_ok hok] at ht
          rcases (Table.mem_insertNew _).mp ht with hold | ⟨rfl, _⟩
          · exact hordered t hold
          · exact orderedWindow_of_require hchecked
  | loaded row payload =>
      refine iff_of_true ?_ fun _ _ _ hphase => by cases hphase
      simp only [WindowPhase.advance]
      split <;> exact hordered
  | validated row payload =>
      simp only [WindowPhase.advance]
      split
      · next raised herror =>
          refine iff_of_true hordered fun _ _ stored hphase hfind => ?_
          cases hphase
          rw [commitUpdate_error herror] at hfind
          cases hfind
      · next response committed hok =>
          rw [commitUpdate_ordered hchecked hordered hok]
          constructor
          · intro hguard _ _ stored hphase hfind
            cases hphase
            exact hguard stored hfind
          · exact fun hguard stored => hguard row payload stored rfl
  | done answer =>
      exact iff_of_true hordered fun _ _ _ hphase => by cases hphase

/-- What every interleaving keeps: ordered windows, and requests that hold
what they checked. -/
structure WindowsKept (σ : WindowRace I) : Prop where
  ordered : OrderedWindows σ.registry.db
  checked : ∀ i, (σ.phase i).Checked

theorem WindowsKept.ordered_iff (hkept : WindowsKept σ)
    (hstep : WindowStep platform requests σ act σ') :
    OrderedWindows σ'.registry.db ↔ CommitsInOrder σ act := by
  cases hstep with
  | advance i => exact (hkept.checked i).advance_ordered _ hkept.ordered
  | other registry hrows =>
      exact iff_of_true (fun t ht => hkept.ordered t (hrows t ht)) trivial

theorem WindowsKept.step (hkept : WindowsKept σ)
    (hguard : CommitsInOrder σ act)
    (hstep : WindowStep platform requests σ act σ') : WindowsKept σ' := by
  refine ⟨(hkept.ordered_iff hstep).mpr hguard, ?_⟩
  cases hstep with
  | advance i =>
      intro j
      by_cases hji : j = i
      · simp only [hji, Function.update_self]
        exact WindowPhase.Checked.advance (requests i) σ.registry
      · simp only [Function.update_of_ne hji]
        exact hkept.checked j
  | other registry hrows => exact hkept.checked

/-- However creates and edits interleave, no committed window is inverted while
every edit that writes one bound finds the other in order with it; the first
edit that does not inverts one. -/
theorem window_never_inverted (platform : Platform)
    (requests : I → WindowRequest) {start : WindowRace I}
    {acts : List (WindowAct I)} (harrived : ∀ i, start.phase i = .arrived)
    (hordered : OrderedWindows start.registry.db)
    (hrun : Run (Guarded CommitsInOrder (WindowStep platform requests)) start
      acts σ) :
    OrderedWindows σ.registry.db ∧ ∀ act σ',
      WindowStep platform requests σ act σ' →
        (OrderedWindows σ'.registry.db ↔ CommitsInOrder σ act) := by
  have hkept : WindowsKept σ := by
    refine hrun.invariant WindowsKept ⟨hordered, fun i => ?_⟩ ?_
    · rw [harrived i]
      trivial
    · rintro before act after hkept ⟨hguard, hstep⟩
      exact hkept.step hguard hstep
  exact ⟨hkept.ordered, fun _ _ hstep => hkept.ordered_iff hstep⟩

end Races

namespace WindowRaceWitness

open ManagementWitness ManagementRunWitness

/-- The window of the stored tournament is 1 to 10. -/
def stored : Registry :=
  after [request (.createTournament (.ok { springCup with
    startDate := some (.aware 1)
    endDate := some (.aware 10) }))]

/-- An edit of the window and of nothing else. -/
def editWindow (startDate endDate : Option (Option Datetime)) :
    WindowRequest :=
  .update (createRequest (some "access-token")) "spring-cup"
    (.ok ⟨none, none, none, startDate, endDate, none, none, none⟩)

/-- One edit moves the start to 8, the other the end to 5. -/
def edits : Bool → WindowRequest
  | false => editWindow (some (some (.aware 8))) none
  | true => editWindow none (some (some (.aware 5)))

def start : WindowRace Bool := ⟨stored, fun _ => .arrived⟩

def advance (σ : WindowRace Bool) (i : Bool) : WindowRace Bool where
  registry := ((σ.phase i).advance platform (edits i) σ.registry).2
  phase := Function.update σ.phase i
    ((σ.phase i).advance platform (edits i) σ.registry).1

/-- The windows that are stored. -/
def windows (σ : WindowRace Bool) : List (Option Instant × Option Instant) :=
  σ.registry.db.tournaments.rows.map fun t => (t.startDate, t.endDate)

/-- The row both edits read. -/
def row : Tournament :=
  tournamentOf { springCup with
    startDate := some (.aware 1)
    endDate := some (.aware 10) } 1 0

/-- The body of the first edit. -/
def changes : TournamentUpdate :=
  ⟨none, none, none, some (some (.aware 8)), none, none, none, none⟩

theorem ordered_start : OrderedWindows start.registry.db := by
  have hrows : stored.db.tournaments.rows = [row] := rfl
  intro t ht
  obtain rfl := List.mem_singleton.mp (hrows ▸ ht)
  have hchecked : requireOrderedWindow (some (.aware 1)) (some (.aware 10)) =
      .ok () := rfl
  exact orderedWindow_of_require hchecked

theorem guarded_edit :
    Run (Guarded CommitsInOrder (WindowStep platform edits)) start
      ([] ++ [.advance false] ++ [.advance false] ++ [.advance false])
      ([false, false, false].foldl advance start) := by
  have hloaded : ([false].foldl advance start).phase false =
      .loaded row changes := rfl
  have hvalidated : ([false, false].foldl advance start).phase false =
      .validated row changes := rfl
  have hstored : ([false, false].foldl advance
      start).registry.db.tournaments.find? row.id = some row := rfl
  have hread : CommitsInOrder start (.advance false) := by
    intro _ _ _ hphase
    cases hphase
  have hvalidate : CommitsInOrder ([false].foldl advance start)
      (.advance false) := by
    intro _ _ _ hphase
    cases hloaded.symm.trans hphase
  have hcommit : CommitsInOrder ([false, false].foldl advance start)
      (.advance false) := by
    intro _ _ _ hphase hfind
    cases hvalidated.symm.trans hphase
    cases hstored.symm.trans hfind
    exact .of_unchanged rfl rfl rfl
  exact ((Run.refl.snoc ⟨hread, .advance start false⟩).snoc
    ⟨hvalidate, .advance _ false⟩).snoc ⟨hcommit, .advance _ false⟩

end WindowRaceWitness

open ManagementWitness WindowRaceWitness in
/-- The first edit alone leaves its window in order. -/
theorem window_never_inverted_alone :
    windows ([false, false, false].foldl advance start) =
        [(some 8, some 10)] ∧
      OrderedWindows
        ([false, false, false].foldl advance start).registry.db :=
  ⟨by decide, (window_never_inverted platform edits (fun _ => rfl)
    ordered_start guarded_edit).1⟩

open ManagementWitness WindowRaceWitness in
/-- Two edits that both read before either commits leave the window 8 to 5. -/
theorem edits_invert_window :
    ¬ ∀ (platform : Platform) (requests : Bool → WindowRequest)
      (start σ : WindowRace Bool) (acts : List (WindowAct Bool)),
        (∀ i, start.phase i = .arrived) → OrderedWindows start.registry.db →
          Run (WindowStep platform requests) start acts σ →
            OrderedWindows σ.registry.db := by
  intro hclaim
  have hrun : Run (WindowStep platform edits) start _
      ([false, true, false, true, false, true].foldl advance start) :=
    Run.foldl WindowAct.advance advance _ fun _ i _ => .advance _ i
  have hordered := hclaim platform edits start _ _ (fun _ => rfl) ordered_start
    hrun
  have hwindows : windows ([false, true, false, true, false, true].foldl advance
      start) = [(some 8, some 5)] := by decide
  obtain ⟨t, ht, hdates⟩ := List.mem_map.mp
    (hwindows ▸ List.mem_singleton_self (some 8, some 5))
  have hle := hordered t ht 8 5 (congrArg Prod.fst hdates)
    (congrArg Prod.snd hdates)
  exact absurd hle (by decide)

end LiveStandings
