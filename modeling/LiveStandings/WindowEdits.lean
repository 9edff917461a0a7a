/-
How a request that sets a window ends.  The bounds that are compared come from
the body and from the stored row, with a UTC offset or without one, and Python
does not order one kind against the other.
-/
import LiveStandings.WindowRaces

namespace LiveStandings

open KeyedTable PyJson Fallible

/-- What the database driver encodes of the values a statement binds: the id of
a ladder, the columns of a row. -/
structure Driver where
  bindsId : Int → Bool
  bindsRow : Tournament → Bool

/-- The caller may create another tournament. -/
def mayCreate (db : Database) (userId : String) : Bool :=
  approvedCreator db userId &&
    db.tournamentOwners.rows.countP (·.userId = userId) <
      maxOwnedTournamentsPerCreator

/-- The window is in order as well, so that the ladder is looked up. -/
def reachesLookup (db : Database) (userId : String)
    (payload : TournamentCreate) : Bool :=
  mayCreate db userId &&
    (requireOrderedWindow payload.startDate payload.endDate).toOption.isSome

/-- `create_tournament` with its driver: a value that does not encode raises
where it is bound. -/
def createTournamentBound (driver : Driver) (platform : Platform)
    (userId : String) (payload : TournamentCreate) (registry : Registry) :
    Except Raised (Response × Registry) :=
  if reachesLookup registry.db userId payload &&
      !driver.bindsId payload.leaderboardId then .error .unhandled
  else do
    let (response, committed) ←
      createTournamentRow platform userId payload registry
    if driver.bindsRow
        (tournamentOf payload (registry.lastTournamentId + 1) registry.now) then
      .ok (response, committed)
    else .error .unhandled

/-- `update_tournament` with its driver. -/
def updateTournamentBound (driver : Driver) (platform : Platform)
    (loaded : Tournament) (payload : TournamentUpdate) (registry : Registry) :
    Except Raised (Response × Registry) :=
  if payload.leaderboardId.any fun id => !driver.bindsId id then
    .error .unhandled
  else do
    let (response, committed) ←
      updateTournament platform loaded payload registry
    if payload.dirty loaded &&
        !driver.bindsRow (payload.update loaded loaded) then .error .unhandled
    else .ok (response, committed)

/-- The answer of an admitted request, and the state it leaves. -/
def handled (result : Except Raised (Response × Registry))
    (registry : Registry) : Except Unhandled Response × Registry :=
  routed (.ok ((), (), registry)) (fun _ _ _ => result) registry

/-- A 4xx that leaves everything as it was. -/
def RejectedCleanly (outcome : Except Unhandled Response × Registry)
    (registry : Registry) : Prop :=
  ∃ response, outcome = (.ok response, registry) ∧
    400 ≤ response.status ∧ response.status < 500

/-- The fields a body asks for are changed, and no other. -/
structure Edited (payload : TournamentUpdate) (stored row : Tournament) :
    Prop where
  id : row.id = stored.id
  slug : row.slug = stored.slug
  createdAt : row.createdAt = stored.createdAt
  name : row.name = payload.name.getD stored.name
  leaderboardId : row.leaderboardId =
    payload.leaderboardId.getD stored.leaderboardId
  rankBy : row.rankBy = payload.rankBy.getD stored.rankBy
  startDate : row.startDate =
    (payload.startDate.map (·.map Datetime.stored)).getD stored.startDate
  endDate : row.endDate =
    (payload.endDate.map (·.map Datetime.stored)).getD stored.endDate
  prizePoolCents : row.prizePoolCents =
    payload.prizePoolCents.getD stored.prizePoolCents
  hostStreamUrls : row.hostStreamUrls =
    payload.hostStreamUrls.getD stored.hostStreamUrls
  presentation : (Json.obj row.presentation).Same
    (.obj (payload.presentation.getD stored.presentation))

/-- One row of a table was written, with what was asked for. -/
def WroteRow (registry registry' : Registry) (id : Int)
    (asked : Tournament → Prop) : Prop :=
  ∃ row, registry'.db.tournaments.find? id = some row ∧ asked row ∧
    ∀ other, other ≠ id → registry'.db.tournaments.find? other =
      registry.db.tournaments.find? other

/-- A create adds the row of its payload, or is rejected. -/
def CreatesCleanly (driver : Driver) (platform : Platform) (userId : String)
    (payload : TournamentCreate) (registry : Registry) : Prop :=
  let outcome := handled
    (createTournamentBound driver platform userId payload registry) registry
  RejectedCleanly outcome registry ∨
    ∃ response registry', outcome = (.ok response, registry') ∧
      response.status = 201 ∧
      WroteRow registry registry' (registry.lastTournamentId + 1)
        (· = tournamentOf payload (registry.lastTournamentId + 1) registry.now)

/-- An edit changes what it asks for, or is rejected. -/
def EditsCleanly (driver : Driver) (platform : Platform) (stored : Tournament)
    (payload : TournamentUpdate) (registry : Registry) : Prop :=
  let outcome := handled
    (updateTournamentBound driver platform stored payload registry) registry
  RejectedCleanly outcome registry ∨
    ∃ response registry', outcome = (.ok response, registry') ∧
      response.status = 200 ∧
      WroteRow registry registry' stored.id (Edited payload stored)

/-- One bound has a UTC offset and the other has none. -/
def Mixed (startDate endDate : Option Datetime) : Prop :=
  ∃ start stop, (startDate = some (.aware start) ∧
      endDate = some (.naive stop)) ∨
    (startDate = some (.naive start) ∧ endDate = some (.aware stop))

/-- The bounds of a create are of one kind, and what it binds encodes. -/
structure CreateHandled (driver : Driver) (userId : String)
    (payload : TournamentCreate) (registry : Registry) : Prop where
  comparable : mayCreate registry.db userId = true →
    ¬ Mixed payload.startDate payload.endDate
  bindsId : reachesLookup registry.db userId payload = true →
    driver.bindsId payload.leaderboardId = true
  bindsRow : validateCreate userId payload registry.db = .ok () →
    driver.bindsRow (tournamentOf payload (registry.lastTournamentId + 1)
      registry.now) = true

/-- The bounds of an edit, after the merge, are of one kind, what it binds
encodes, and a presentation that is `==` to the stored one has its content. -/
structure EditHandled (driver : Driver) (stored : Tournament)
    (payload : TournamentUpdate) (registry : Registry) : Prop where
  bindsId : ∀ id ∈ payload.leaderboardId, driver.bindsId id = true
  comparable : requireSupportedChange registry.db payload.leaderboardId =
      .ok () →
    ¬ Mixed (mergedDate stored.startDate payload.startDate)
      (mergedDate stored.endDate payload.endDate)
  bindsRow : validateUpdate stored payload registry.db = .ok () →
    payload.dirty stored = true →
      driver.bindsRow (payload.update stored stored) = true
  presentation : validateUpdate stored payload registry.db = .ok () →
    ∀ asked ∈ payload.presentation,
      (Json.obj stored.presentation).pyEq (.obj asked) = true →
        (Json.obj stored.presentation).Same (.obj asked)

/-- An answer of 400 to 499. -/
def ClientError (raised : Raised) : Prop :=
  ∃ statusCode detail final, raised = .http statusCode detail final ∧
    400 ≤ statusCode ∧ statusCode < 500

/-- A check that passes, or answers with a client error. -/
def Checks (result : Except Raised Unit) : Prop :=
  result = .ok () ∨ ∃ raised, ClientError raised ∧ result = .error raised

theorem clientError_422 (detail : String) :
    ClientError (httpException 422 detail final_422) :=
  ⟨_, _, _, rfl, by decide, by decide⟩

theorem clientError_403 (detail : String) :
    ClientError (httpException 403 detail final_403) :=
  ⟨_, _, _, rfl, by decide, by decide⟩

theorem clientError_409 (detail : String) :
    ClientError (httpException 409 detail final_409) :=
  ⟨_, _, _, rfl, by decide, by decide⟩

theorem rejectedCleanly_of_clientError {raised : Raised} (registry : Registry)
    (hclient : ClientError raised) :
    RejectedCleanly (handled (.error raised) registry) registry := by
  obtain ⟨statusCode, detail, final, rfl, hlow, hhigh⟩ := hclient
  exact ⟨_, rfl, hlow, hhigh⟩

theorem handled_unhandled_ne {registry registry' : Registry}
    {response : Response} :
    handled (.error .unhandled) registry ≠ (.ok response, registry') := by
  intro heq
  cases congrArg Prod.fst heq

theorem requireOrderedWindow_cases (startDate endDate : Option Datetime) :
    (Mixed startDate endDate ∧
        requireOrderedWindow startDate endDate = .error .unhandled) ∨
      (¬ Mixed startDate endDate ∧
        Checks (requireOrderedWindow startDate endDate)) := by
  have hsame : ∀ start stop : Datetime, ∀ inverted : Bool,
      start.after stop = .ok inverted →
        Checks (requireOrderedWindow (some start) (some stop)) := by
    intro start stop inverted hafter
    rw [requireOrderedWindow]
    simp only [hafter]
    cases inverted with
    | false => exact Or.inl rfl
    | true => exact Or.inr ⟨_, clientError_422 _, rfl⟩
  cases startDate with
  | none => exact Or.inr ⟨by simp [Mixed], Or.inl rfl⟩
  | some start =>
      cases endDate with
      | none => exact Or.inr ⟨by simp [Mixed], Or.inl rfl⟩
      | some stop =>
          cases start with
          | aware start =>
              cases stop with
              | aware stop => exact Or.inr ⟨by simp [Mixed], hsame _ _ _ rfl⟩
              | naive stop =>
                  exact Or.inl ⟨⟨start, stop, Or.inl ⟨rfl, rfl⟩⟩, rfl⟩
          | naive start =>
              cases stop with
              | aware stop =>
                  exact Or.inl ⟨⟨start, stop, Or.inr ⟨rfl, rfl⟩⟩, rfl⟩
              | naive stop => exact Or.inr ⟨by simp [Mixed], hsame _ _ _ rfl⟩

theorem requireSupportedLeaderboard_checks (db : Database) (id : Int) :
    Checks (requireSupportedLeaderboard db id) := by
  rw [requireSupportedLeaderboard]
  cases db.leaderboards.find? id with
  | none => exact Or.inr ⟨_, clientError_422 _, rfl⟩
  | some row =>
      simp only
      split
      · exact Or.inr ⟨_, clientError_422 _, rfl⟩
      · exact Or.inl rfl

theorem requireSupportedChange_checks (db : Database) (id : Option Int) :
    Checks (requireSupportedChange db id) := by
  cases id with
  | none => exact Or.inl rfl
  | some id => exact requireSupportedLeaderboard_checks db id

theorem validateCreate_of_not {userId : String} (payload : TournamentCreate)
    {db : Database} (hmay : mayCreate db userId = false) :
    ∃ raised, ClientError raised ∧
      validateCreate userId payload db = .error raised := by
  rw [validateCreate]
  simp only
  split
  · exact ⟨_, clientError_403 _, rfl⟩
  · next happroved =>
      split
      · exact ⟨_, clientError_422 _, rfl⟩
      · next hroom =>
          simp only [Bool.not_eq_true', Bool.not_eq_false] at happroved
          simp [mayCreate, happroved, Nat.not_le.mp hroom] at hmay

theorem validateCreate_of_may {userId : String} (payload : TournamentCreate)
    {db : Database} (hmay : mayCreate db userId = true) :
    validateCreate userId payload db = (do
      requireOrderedWindow payload.startDate payload.endDate
      requireSupportedLeaderboard db payload.leaderboardId
      if db.tournaments.rows.any (·.slug = payload.slug) then
        .error (httpException 409
          ("Tournament '" ++ payload.slug ++ "' already exists") final_409)
      else .ok ()) := by
  simp only [mayCreate, Bool.and_eq_true, decide_eq_true_eq] at hmay
  rw [validateCreate]
  simp only [hmay.1, Nat.not_le.mpr hmay.2, Bool.not_true, Bool.false_eq_true,
    ↓reduceIte]

section Creates

variable {driver : Driver} {platform : Platform} {userId : String}
  {payload : TournamentCreate} {registry : Registry}

/-- A create whose ladder encodes, or is not looked up, is its checks and its
commit. -/
theorem createTournamentBound_of_bound
    (hbound : reachesLookup registry.db userId payload = true →
      driver.bindsId payload.leaderboardId = true) :
    createTournamentBound driver platform userId payload registry =
      (do
        validateCreate userId payload registry.db
        commitCreate platform userId payload registry) >>= fun committed =>
          if driver.bindsRow (tournamentOf payload
              (registry.lastTournamentId + 1) registry.now) then .ok committed
          else .error .unhandled := by
  rw [createTournamentBound, if_neg (by simpa using hbound),
    createTournamentRow_eq]

/-- A create that its checks reject answers with that. -/
theorem createsCleanly_iff_of_rejected {raised : Raised}
    (hcomparable : mayCreate registry.db userId = true →
      ¬ Mixed payload.startDate payload.endDate)
    (hbound : reachesLookup registry.db userId payload = true →
      driver.bindsId payload.leaderboardId = true)
    (hclient : ClientError raised)
    (hrejected : validateCreate userId payload registry.db = .error raised) :
    CreatesCleanly driver platform userId payload registry ↔
      CreateHandled driver userId payload registry := by
  have hresult : createTournamentBound driver platform userId payload registry =
      .error raised := by
    rw [createTournamentBound_of_bound hbound, hrejected]
    rfl
  refine iff_of_true (Or.inl ?_) ⟨hcomparable, hbound, by simp [hrejected]⟩
  rw [hresult]
  exact rejectedCleanly_of_clientError registry hclient

theorem not_createsCleanly_of_unhandled
    (hresult : createTournamentBound driver platform userId payload registry =
      .error .unhandled) :
    ¬ CreatesCleanly driver platform userId payload registry := by
  rw [CreatesCleanly, hresult]
  rintro (⟨_, heq, _⟩ | ⟨_, _, heq, _⟩)
  · exact handled_unhandled_ne heq
  · exact handled_unhandled_ne heq

/-- The insert of a create past its checks. -/
theorem createsCleanly_of_valid (hmanaged : Managed registry)
    (hbound : driver.bindsId payload.leaderboardId = true)
    (hvalid : validateCreate userId payload registry.db = .ok ())
    (hslug : registry.db.tournaments.rows.any (·.slug = payload.slug) = false) :
    CreatesCleanly driver platform userId payload registry ↔
      driver.bindsRow (tournamentOf payload (registry.lastTournamentId + 1)
        registry.now) = true := by
  have hresult : createTournamentBound driver platform userId payload registry =
      commitCreate platform userId payload registry >>= fun committed =>
        if driver.bindsRow (tournamentOf payload
            (registry.lastTournamentId + 1) registry.now) then .ok committed
        else .error .unhandled := by
    rw [createTournamentBound_of_bound fun _ => hbound, hvalid]
    rfl
  have hcommit : ∃ response committed,
      commitCreate platform userId payload registry =
        .ok (response, committed) ∧ response.status = 201 := by
    rw [commitCreate]
    simp only [hslug]
    exact ⟨_, _, rfl, rfl⟩
  obtain ⟨response, committed, hcommit, hstatus⟩ := hcommit
  have hfresh : registry.db.tournaments.find? (registry.lastTournamentId + 1) =
      none := by
    refine (Table.find?_eq_none_iff _).mpr fun t ht hid => ?_
    have hle := hmanaged.tournament_id t ht
    omega
  rw [hcommit] at hresult
  cases hrow : driver.bindsRow (tournamentOf payload
      (registry.lastTournamentId + 1) registry.now) with
  | false =>
      rw [hrow] at hresult
      exact iff_of_false (not_createsCleanly_of_unhandled hresult)
        Bool.false_ne_true
  | true =>
      rw [hrow] at hresult
      refine iff_of_true (Or.inr ⟨response, committed, ?_, hstatus, _, ?_, rfl,
        fun other hother => ?_⟩) rfl
      · rw [hresult]
        rfl
      · rw [commitCreate_ok hcommit, Table.find?_insertNew, hfresh]
        exact if_pos rfl
      · rw [commitCreate_ok hcommit, Table.find?_insertNew,
          if_neg fun hid => hother hid.symm]

theorem createsCleanly_iff (hmanaged : Managed registry) :
    CreatesCleanly driver platform userId payload registry ↔
      CreateHandled driver userId payload registry := by
  cases hmay : mayCreate registry.db userId with
  | false =>
      obtain ⟨raised, hclient, hrejected⟩ :=
        validateCreate_of_not payload hmay
      exact createsCleanly_iff_of_rejected (by simp [hmay])
        (by simp [reachesLookup, hmay]) hclient hrejected
  | true =>
      have hchecks := validateCreate_of_may payload hmay
      rcases requireOrderedWindow_cases payload.startDate payload.endDate with
        ⟨hmixed, hwindow⟩ | ⟨hmixed, hwindow | ⟨raised, hclient, hwindow⟩⟩
      · -- the comparison raises before anything is looked up
        rw [hwindow] at hchecks
        refine iff_of_false (not_createsCleanly_of_unhandled ?_)
          fun hhandled => hhandled.comparable hmay hmixed
        have hreaches : reachesLookup registry.db userId payload = false := by
          simp [reachesLookup, hwindow, Except.toOption]
        rw [createTournamentBound_of_bound (by simp [hreaches]), hchecks]
        rfl
      · have hreaches : reachesLookup registry.db userId payload = true := by
          simp [reachesLookup, hmay, hwindow, Except.toOption]
        rw [hwindow] at hchecks
        cases hid : driver.bindsId payload.leaderboardId with
        | false =>
            refine iff_of_false (not_createsCleanly_of_unhandled ?_)
              fun hhandled => by simpa [hid] using hhandled.bindsId hreaches
            rw [createTournamentBound, if_pos (by simp [hreaches, hid])]
        | true =>
            rcases requireSupportedLeaderboard_checks registry.db
              payload.leaderboardId with hladder | ⟨raised, hclient, hladder⟩
            · rw [hladder] at hchecks
              cases hslug : registry.db.tournaments.rows.any
                (·.slug = payload.slug) with
              | false =>
                  rw [hslug] at hchecks
                  rw [createsCleanly_of_valid hmanaged hid hchecks hslug]
                  exact ⟨fun hrow => ⟨fun _ => hmixed, fun _ => hid,
                    fun _ => hrow⟩, fun hhandled => hhandled.bindsRow hchecks⟩
              | true =>
                  rw [hslug] at hchecks
                  exact createsCleanly_iff_of_rejected (fun _ => hmixed)
                    (fun _ => hid) (clientError_409 _) hchecks
            · rw [hladder] at hchecks
              exact createsCleanly_iff_of_rejected (fun _ => hmixed)
                (fun _ => hid) hclient hchecks
      · have hreaches : reachesLookup registry.db userId payload = false := by
          simp [reachesLookup, hwindow, Except.toOption]
        rw [hwindow] at hchecks
        exact createsCleanly_iff_of_rejected (fun _ => hmixed)
          (by simp [hreaches]) hclient hchecks

end Creates

section Edits

variable {driver : Driver} {platform : Platform} {stored : Tournament}
  {payload : TournamentUpdate} {registry : Registry}

/-- An edit whose ladder encodes is its checks and its commit. -/
theorem updateTournamentBound_of_bound
    (hbound : ∀ id ∈ payload.leaderboardId, driver.bindsId id = true) :
    updateTournamentBound driver platform stored payload registry =
      (do
        validateUpdate stored payload registry.db
        commitUpdate platform stored payload registry) >>= fun committed =>
          if payload.dirty stored &&
              !driver.bindsRow (payload.update stored stored) then
            .error .unhandled
          else .ok committed := by
  rw [updateTournamentBound, if_neg (by simpa [Option.any_eq_true] using hbound),
    updateTournament_eq]

theorem editsCleanly_iff_of_rejected {raised : Raised}
    (hcomparable : requireSupportedChange registry.db payload.leaderboardId =
        .ok () →
      ¬ Mixed (mergedDate stored.startDate payload.startDate)
        (mergedDate stored.endDate payload.endDate))
    (hbound : ∀ id ∈ payload.leaderboardId, driver.bindsId id = true)
    (hclient : ClientError raised)
    (hrejected : validateUpdate stored payload registry.db = .error raised) :
    EditsCleanly driver platform stored payload registry ↔
      EditHandled driver stored payload registry := by
  have hresult : updateTournamentBound driver platform stored payload registry =
      .error raised := by
    rw [updateTournamentBound_of_bound hbound, hrejected]
    rfl
  refine iff_of_true (Or.inl ?_)
    ⟨hbound, hcomparable, by simp [hrejected], by simp [hrejected]⟩
  rw [hresult]
  exact rejectedCleanly_of_clientError registry hclient

theorem not_editsCleanly_of_unhandled
    (hresult : updateTournamentBound driver platform stored payload registry =
      .error .unhandled) :
    ¬ EditsCleanly driver platform stored payload registry := by
  rw [EditsCleanly, hresult]
  rintro (⟨_, heq, _⟩ | ⟨_, _, heq, _⟩)
  · exact handled_unhandled_ne heq
  · exact handled_unhandled_ne heq

theorem updatedColumn_date (loaded : Option Instant)
    (change : Option (Option Datetime)) :
    updatedColumn (dateChanged loaded change)
        ((mergedDate loaded change).map Datetime.stored) loaded =
      (change.map (·.map Datetime.stored)).getD loaded := by
  have hmerged : (mergedDate loaded change).map Datetime.stored =
      (change.map (·.map Datetime.stored)).getD loaded := by
    cases change with
    | none => cases loaded <;> rfl
    | some bound => rfl
  rw [← hmerged]
  rw [updatedColumn]
  split
  · rfl
  · next hsame => exact (mergedDate_of_unchanged (by simpa using hsame)).symm

theorem updatedColumn_ne {A : Type} [DecidableEq A] (inMemory stored : A) :
    updatedColumn (decide (stored ≠ inMemory)) inMemory stored = inMemory := by
  rw [updatedColumn]
  split
  · rfl
  · next hsame => simpa using hsame

/-- The column is written, except where what is asked for is `==` to it. -/
theorem updatedColumn_document (loaded : List (String × Json))
    (change : Option (List (String × Json))) :
    (Json.obj (updatedColumn (documentChanged loaded change)
        (change.getD loaded) loaded)).Same (.obj (change.getD loaded)) ↔
      ∀ asked ∈ change, (Json.obj loaded).pyEq (.obj asked) = true →
        (Json.obj loaded).Same (.obj asked) := by
  cases change with
  | none => exact iff_of_true (.refl _) nofun
  | some asked =>
      cases hequal : (Json.obj loaded).pyEq (.obj asked) with
      | false => simp [updatedColumn, documentChanged, hequal, Json.Same.refl]
      | true => simp [updatedColumn, documentChanged, hequal]

/-- An edit of a row that is as it was read changes what it asks for, unless
the presentation is only `==` to the stored one. -/
theorem edited_update_iff (payload : TournamentUpdate) (stored : Tournament) :
    Edited payload stored (payload.update stored stored) ↔
      ∀ asked ∈ payload.presentation,
        (Json.obj stored.presentation).pyEq (.obj asked) = true →
          (Json.obj stored.presentation).Same (.obj asked) := by
  rw [← updatedColumn_document]
  exact ⟨fun hedited => hedited.presentation, fun hsame =>
    ⟨rfl, rfl, rfl, updatedColumn_ne .., updatedColumn_ne ..,
      updatedColumn_ne .., updatedColumn_date .., updatedColumn_date ..,
      updatedColumn_ne .., updatedColumn_ne .., hsame⟩⟩

theorem update_of_clean (hclean : payload.dirty stored = false) :
    payload.update stored stored = stored := by
  simp only [TournamentUpdate.dirty, Bool.or_eq_false_iff] at hclean
  simp [TournamentUpdate.update, updatedColumn, hclean]

/-- A commit that is answered leaves the row of the `UPDATE`. -/
theorem editsCleanly_of_answered {response : Response} {registry' : Registry}
    (hstatus : response.status = 200)
    (hanswered : updateTournamentBound driver platform stored payload registry =
      .ok (response, registry'))
    (hfind : registry'.db.tournaments.find? stored.id =
      some (payload.update stored stored))
    (hothers : ∀ other, other ≠ stored.id →
      registry'.db.tournaments.find? other =
        registry.db.tournaments.find? other) :
    EditsCleanly driver platform stored payload registry ↔
      Edited payload stored (payload.update stored stored) := by
  rw [EditsCleanly, hanswered]
  constructor
  · rintro (⟨_, heq, hlow, _⟩ | ⟨_, _, heq, _, row, hrow, hedited, _⟩)
    · cases heq
      omega
    · cases heq
      cases hfind.symm.trans hrow
      exact hedited
  · exact fun hedited => Or.inr
      ⟨response, registry', rfl, hstatus, _, hfind, hedited, hothers⟩

/-- The commit of an edit past its checks. -/
theorem editsCleanly_of_valid
    (hstored : registry.db.tournaments.find? stored.id = some stored)
    (hbound : ∀ id ∈ payload.leaderboardId, driver.bindsId id = true)
    (hvalid : validateUpdate stored payload registry.db = .ok ()) :
    EditsCleanly driver platform stored payload registry ↔
      (payload.dirty stored = true →
        driver.bindsRow (payload.update stored stored) = true) ∧
      Edited payload stored (payload.update stored stored) := by
  have hresult : updateTournamentBound driver platform stored payload registry =
      commitUpdate platform stored payload registry >>= fun committed =>
        if payload.dirty stored &&
            !driver.bindsRow (payload.update stored stored) then
          .error .unhandled
        else .ok committed := by
    rw [updateTournamentBound_of_bound hbound, hvalid]
    rfl
  cases hdirty : payload.dirty stored with
  | false =>
      simp only [commitUpdate, hdirty, Bool.not_false, ↓reduceIte] at hresult
      have hfind : registry.db.tournaments.find? stored.id =
          some (payload.update stored stored) := by
        rw [update_of_clean hdirty]
        exact hstored
      rw [editsCleanly_of_answered rfl hresult hfind fun _ _ => rfl]
      simp
  | true =>
      cases hrow : driver.bindsRow (payload.update stored stored) with
      | false =>
          refine iff_of_false (not_editsCleanly_of_unhandled ?_) (by simp)
          rw [hresult]
          simp only [commitUpdate, hdirty, hrow, hstored]
          rfl
      | true =>
          simp only [commitUpdate, hdirty, hrow, hstored] at hresult
          rw [editsCleanly_of_answered rfl hresult]
          · simp
          · rw [Table.find?_overwrite]
            exact if_pos rfl
          · intro other hother
            rw [Table.find?_overwrite]
            exact if_neg fun hid => hother hid.symm

theorem editsCleanly_iff
    (hstored : registry.db.tournaments.find? stored.id = some stored) :
    EditsCleanly driver platform stored payload registry ↔
      EditHandled driver stored payload registry := by
  by_cases hbound : ∀ id ∈ payload.leaderboardId, driver.bindsId id = true
  · rcases requireSupportedChange_checks registry.db payload.leaderboardId with
      hladder | ⟨raised, hclient, hladder⟩
    · have hchecks : validateUpdate stored payload registry.db =
          requireOrderedWindow (mergedDate stored.startDate payload.startDate)
            (mergedDate stored.endDate payload.endDate) := by
        rw [validateUpdate, hladder]
        rfl
      rcases requireOrderedWindow_cases
          (mergedDate stored.startDate payload.startDate)
          (mergedDate stored.endDate payload.endDate) with
        ⟨hmixed, hwindow⟩ | ⟨hmixed, hwindow | ⟨raised, hclient, hwindow⟩⟩
      · refine iff_of_false (not_editsCleanly_of_unhandled ?_)
          fun hhandled => hhandled.comparable hladder hmixed
        rw [updateTournamentBound_of_bound hbound, hchecks, hwindow]
        rfl
      · have hvalid := hchecks.trans hwindow
        rw [editsCleanly_of_valid hstored hbound hvalid, edited_update_iff]
        exact ⟨fun ⟨hrow, hsame⟩ =>
            ⟨hbound, fun _ => hmixed, fun _ => hrow, fun _ => hsame⟩,
          fun hhandled =>
            ⟨hhandled.bindsRow hvalid, hhandled.presentation hvalid⟩⟩
      · exact editsCleanly_iff_of_rejected (fun _ => hmixed) hbound hclient
          (hchecks.trans hwindow)
    · have hrejected : validateUpdate stored payload registry.db =
          .error raised := by
        rw [validateUpdate, hladder]
        rfl
      exact editsCleanly_iff_of_rejected (by simp [hladder]) hbound hclient
        hrejected
  · refine iff_of_false (not_editsCleanly_of_unhandled ?_)
      fun hhandled => hbound hhandled.bindsId
    rw [updateTournamentBound,
      if_pos (by simpa [Option.any_eq_true] using hbound)]

end Edits

/-- Every create and every edit ends in the commit it asks for or in a clean
rejection, exactly where the driver encodes what it binds, the two bounds that
are compared both have a UTC offset or both have none, and a presentation that
is `==` to the stored one has its content. -/
theorem window_edits_clean_iff (driver : Driver) (platform : Platform)
    {registry : Registry} (hmanaged : Managed registry) :
    (∀ userId payload,
      CreatesCleanly driver platform userId payload registry ↔
        CreateHandled driver userId payload registry) ∧
    ∀ stored payload,
      registry.db.tournaments.find? stored.id = some stored →
        (EditsCleanly driver platform stored payload registry ↔
          EditHandled driver stored payload registry) :=
  ⟨fun _ _ => createsCleanly_iff hmanaged,
    fun _ _ hstored => editsCleanly_iff hstored⟩

namespace WindowEditWitness

open ManagementWitness ManagementRunWitness WindowRaceWitness

def asyncpg : Driver where
  bindsId := inInt32
  bindsRow row := inInt32 row.leaderboardId && row.prizePoolCents.all inInt32 &&
    textEncodes row.name

/-- A start without a UTC offset, and nothing else. -/
def naiveStart : TournamentUpdate :=
  ⟨none, none, none, some (some (.naive 8)), none, none, none, none⟩

theorem managed_stored : Managed stored :=
  managed_of_run noTournaments
    (run_after (fun _ _ => True) _ fun _ _ _ => trivial).unguarded

theorem find_row : stored.db.tournaments.find? row.id = some row := rfl

theorem naiveStart_unhandled (driver : Driver) :
    ¬ EditHandled driver row naiveStart stored := by
  intro hhandled
  exact hhandled.comparable rfl ⟨8, 10, Or.inr ⟨rfl, rfl⟩⟩

/-- A tournament whose presentation holds one number. -/
def featuredCup : TournamentCreate :=
  { springCup with presentation := [("featured", .int 1)] }

def featured : Registry := after [request (.createTournament (.ok featuredCup))]

def featuredRow : Tournament := tournamentOf featuredCup 1 0

/-- The truth value for the number. -/
def featureTrue : TournamentUpdate :=
  ⟨none, none, none, none, none, none, none, some [("featured", .bool true)]⟩

theorem managed_featured : Managed featured :=
  managed_of_run noTournaments
    (run_after (fun _ _ => True) _ fun _ _ _ => trivial).unguarded

theorem featureTrue_unhandled (driver : Driver) :
    ¬ EditHandled driver featuredRow featureTrue featured := by
  intro hhandled
  have hsame := hhandled.presentation rfl _ rfl (by decide)
  cases hsame with
  | obj hfields =>
      have hvalue := hfields "featured"
      cases hvalue with
      | some hscalar => cases hscalar

end WindowEditWitness

open ManagementWitness WindowRaceWitness WindowEditWitness in
/-- A start with an offset is edited cleanly; one without is not, nor is a
truth value for the number 1. -/
theorem window_edits_clean_iff_start :
    EditsCleanly asyncpg platform row changes stored ∧
      ¬ EditsCleanly asyncpg platform row naiveStart stored ∧
      ¬ EditsCleanly asyncpg platform featuredRow featureTrue featured := by
  have hclean := (window_edits_clean_iff asyncpg platform managed_stored).2
  have hfeatured := (window_edits_clean_iff asyncpg platform managed_featured).2
  refine ⟨?_, fun hedits => ?_, fun hedits => ?_⟩
  · exact (hclean row changes find_row).mpr
      ⟨nofun, fun _ => by simp [Mixed, mergedDate, changes],
        fun _ _ => by decide, nofun⟩
  · exact naiveStart_unhandled asyncpg
      ((hclean row naiveStart find_row).mp hedits)
  · exact featureTrue_unhandled asyncpg
      ((hfeatured featuredRow featureTrue rfl).mp hedits)

open ManagementWitness WindowRaceWitness WindowEditWitness in
/-- Where the driver encodes whatever is bound, a start without an offset
still raises next to the stored end. -/
theorem naive_start_raises :
    ¬ ∀ (driver : Driver) (platform : Platform) (registry : Registry),
      (∀ id, driver.bindsId id = true) → (∀ row, driver.bindsRow row = true) →
        Managed registry →
          (∀ userId payload,
            CreatesCleanly driver platform userId payload registry) ∧
          ∀ stored payload,
            registry.db.tournaments.find? stored.id = some stored →
              EditsCleanly driver platform stored payload registry := by
  intro hclaim
  have hedits := (hclaim ⟨fun _ => true, fun _ => true⟩ platform stored
    (fun _ => rfl) (fun _ => rfl) managed_stored).2 row naiveStart find_row
  exact naiveStart_unhandled _ ((editsCleanly_iff find_row).mp hedits)

end LiveStandings
