/-
The deployment as one machine.  The management API, the worker and the
operator commit over one database; whatever the order of their transactions,
every constraint that the schema declares holds in every state they reach.
-/
import LiveStandings.FinalCurrent
import LiveStandings.LeaderboardLoader
import LiveStandings.LiveRaces
import LiveStandings.OwnerCasing
import LiveStandings.PlatformSnapshots
import LiveStandings.Library.ForeignKeys

namespace LiveStandings

open KeyedTable PyJson Runs Fallible

/-- A transaction.  What its party read before it began, however long ago, is
among its arguments. -/
inductive Transaction where
  | request (request : ManagementRequest)
  | tick (mapping : Dict Int Int) (tick : Tick)
  | liveSets (call : LiveCall)
  | leaderboards (now : Instant) (payload : Json)
  | creators (allowlist : Table TournamentCreator.userId)
  | elapse (now : Instant) (hits : List (String × String))

/-- The state a transaction leaves; one that raises is rolled back. -/
def Transaction.commit (codec : Codec) (platform : Platform)
    (registry : Registry) : Transaction → Registry
  | request sent => (sent.call.answer platform sent.http registry).2
  | tick mapping polled =>
      { registry with db := polled.commit codec mapping registry.db }
  | liveSets call =>
      { registry with
        db := committedState registry.db
          ((call.apply registry.db).map Prod.snd) }
  | leaderboards now payload =>
      { registry with db := (loadLeaderboards now payload registry.db).1 }
  | creators allowlist =>
      { registry with
        db := { registry.db with tournamentCreators := allowlist } }
  | elapse now hits => { registry with now := now, hits := hits }

/-- The steps of the deployment. -/
inductive DeploymentStep (codec : Codec) (platform : Platform) :
    Registry → Transaction → Registry → Prop where
  | commit (registry : Registry) (transaction : Transaction) :
      DeploymentStep codec platform registry transaction
        (transaction.commit codec platform registry)

/-- The keys among the tables the worker writes. -/
structure WorkerKeys (db : Database) : Prop where
  rating_player : Refers db.playerRatings (·.profileId) db.players
  snapshot_player : Refers db.playerRatingSnapshots (·.profileId) db.players
  matchPlayer_match : Refers db.matchPlayers (·.matchId) db.matchTable
  liveMatchPlayer_match : Refers db.liveMatchPlayers (·.matchId) db.matchTable

/-- `tournaments.slug` is unique. -/
abbrev UniqueSlugs (tournaments : Table Tournament.id) : Prop :=
  ∀ left ∈ tournaments.rows, ∀ right ∈ tournaments.rows,
    left.slug = right.slug → left.id = right.id

/-- The keys of what belongs to a tournament or to a roster row. -/
structure TournamentKeys (db : Database) : Prop extends References db where
  slug_unique : UniqueSlugs db.tournaments
  entry_tournament : Refers db.tournamentPlayers (·.tournamentId) db.tournaments
  team_tournament : Refers db.teams (·.tournamentId) db.tournaments
  owner_tournament : Refers db.tournamentOwners (·.tournamentId) db.tournaments

/-- Every unique constraint and foreign key of the schema. -/
structure Database.Intact (db : Database) : Prop extends
  db.Consistent, TournamentKeys db

/-- The invariant of the deployment. -/
structure Sound (registry : Registry) : Prop where
  managed : Managed registry
  worker : WorkerKeys registry.db
  tournament : TournamentKeys registry.db

theorem Sound.intact {registry : Registry} (hsound : Sound registry) :
    registry.db.Intact := by
  obtain ⟨hmanaged, hworker, htournament⟩ := hsound
  have hconsistent : registry.db.Consistent := by
    refine ⟨hmanaged.name_unique, hmanaged.profile_unique,
      hworker.rating_player, hworker.snapshot_player,
      hworker.matchPlayer_match, hworker.liveMatchPlayer_match,
      fun row hrow => ?_, fun row hrow => ?_, hmanaged.member_tournament⟩
    · exact find?_isSome_iff.mpr (hmanaged.member_team row hrow)
    · exact find?_isSome_iff.mpr (hmanaged.member_entry row hrow)
  exact ⟨hconsistent, htournament⟩

section Worker

variable {db db' : Database} {now : Instant}

theorem foldlM_upsertPlayerRating_known {rows : List PlayerRating}
    (hrun : rows.foldlM upsertPlayerRating db = .ok db') :
    ∀ row ∈ rows, (db.players.find? row.profileId).isSome = true := by
  induction rows generalizing db with
  | nil => simp
  | cons row rows ih =>
      rw [List.foldlM_cons] at hrun
      obtain ⟨next, hstep, hrest⟩ := bind_eq_ok.mp hrun
      rw [upsertPlayerRating] at hstep
      split at hstep
      · next hknown =>
          cases hstep
          intro other hother
          rcases List.mem_cons.mp hother with rfl | htail
          · exact hknown
          · exact ih hrest other htail
      · cases hstep

/-- A stats tick that commits rates players it has just written, or that were
there. -/
theorem writeStats_known {players : List Player} {ratings : List PlayerRating}
    (hwrite : writeStats db now players ratings = .ok db') :
    ∀ rating ∈ ratings,
      ((db.players.overwriteAll players).find? rating.profileId).isSome =
        true := by
  rw [writeStats] at hwrite
  obtain ⟨written, hinsert, hratings⟩ := bind_eq_ok.mp hwrite
  rw [foldl_upsertPlayer, insertRatingSnapshots] at hinsert
  split at hinsert
  · cases hinsert
    exact foldlM_upsertPlayerRating_known hratings
  · cases hinsert

theorem WorkerKeys.writeStats (hkeys : WorkerKeys db) {players : List Player}
    {ratings : List PlayerRating}
    (hwrite : writeStats db now players ratings = .ok db') :
    WorkerKeys db' := by
  have hknown := writeStats_known hwrite
  have hplayers := keepsKeys_overwriteAll db.players players
  obtain ⟨table, appended, hrows, happended, rfl⟩ := writeStats_ok hwrite
  refine ⟨?_, ?_, hkeys.matchPlayer_match, hkeys.liveMatchPlayer_match⟩
  · exact (hkeys.rating_player.of_keepsKeys hplayers).overwriteAll hknown
  · intro row hrow
    rw [hrows] at hrow
    rcases List.mem_append.mp hrow with hold | hnew
    · exact hplayers _ (hkeys.snapshot_player row hold)
    · obtain ⟨_, rating, hrating, _, hkey⟩ := happended row hnew
      have hprofile : row.profileId = rating.profileId :=
        congrArg Prod.fst hkey
      show ((db.players.overwriteAll players).find? row.profileId).isSome = true
      rw [hprofile]
      exact hknown rating hrating

theorem WorkerKeys.writeRecent (hkeys : WorkerKeys db) {rows : RecentRows}
    (hjoined : rows.Joined) : WorkerKeys (writeRecent db rows) :=
  { hkeys with
    matchPlayer_match :=
      Database.Matched.writeRecent hkeys.matchPlayer_match hjoined
    liveMatchPlayer_match := hkeys.liveMatchPlayer_match.of_keepsKeys
      (keepsKeys_overwriteAll db.matchTable rows.matchRows) }

theorem WorkerKeys.writeLive (hkeys : WorkerKeys db) {rows : List Match}
    {links : List LiveMatchPlayer}
    (hreplace : replaceLiveMatchPlayers (rows.foldl upsertMatchFromLive db)
      links = .ok db') : WorkerKeys db' := by
  have hlinks : ∀ link ∈ links,
      (db'.matchTable.find? link.matchId).isSome = true := by
    rw [replaceLiveMatchPlayers] at hreplace
    split at hreplace
    · next hall =>
        cases hreplace
        exact List.all_eq_true.mp hall
    · cases hreplace
  obtain ⟨table, rfl, hplayed⟩ := writeLive_ok hreplace
  have hmatches : KeepsKeys db.matchTable table := by
    intro matchId hstored
    have hsome := congrArg Option.isSome (hplayed matchId hstored)
    rw [Option.isSome_map, Option.isSome_map] at hsome
    exact hsome.trans hstored
  exact { hkeys with
    matchPlayer_match := hkeys.matchPlayer_match.of_keepsKeys hmatches
    liveMatchPlayer_match := Refers.empty.insertAll hlinks }

theorem WorkerKeys.commit (hkeys : WorkerKeys db) (codec : Codec)
    (mapping : Dict Int Int) (tick : Tick) :
    WorkerKeys (tick.commit codec mapping db) := by
  rcases tick.commit_cases codec mapping db with
    hcommit | ⟨written, now, hwrites, hcommit⟩
  · rw [hcommit]
    exact hkeys
  · rw [hcommit]
    have hwritten : WorkerKeys written := by
      cases hwrites with
      | stats _ hwrite => exact hkeys.writeStats hwrite
      | recent _ => exact hkeys.writeRecent (batchRows_joined codec mapping _ _)
      | live _ hreplace => exact hkeys.writeLive hreplace
    exact ⟨hwritten.rating_player, hwritten.snapshot_player,
      hwritten.matchPlayer_match, hwritten.liveMatchPlayer_match⟩

end Worker

/-- What a tick of the worker does not touch. -/
structure OutsideTick (before after : Database) : Prop where
  tournaments : after.tournaments = before.tournaments
  roster : after.tournamentPlayers = before.tournamentPlayers
  owners : after.tournamentOwners = before.tournamentOwners
  teams : after.teams = before.teams
  members : after.teamMembers = before.teamMembers
  liveStreams : after.liveStreams = before.liveStreams
  hostLiveStreams : after.hostLiveStreams = before.hostLiveStreams

theorem outsideTick_commit (codec : Codec) (mapping : Dict Int Int)
    (tick : Tick) (db : Database) :
    OutsideTick db (tick.commit codec mapping db) := by
  rcases tick.commit_cases codec mapping db with
    hcommit | ⟨written, now, hwrites, hcommit⟩
  · rw [hcommit]
    exact ⟨rfl, rfl, rfl, rfl, rfl, rfl, rfl⟩
  · rw [hcommit]
    cases hwrites with
    | stats _ hwrite =>
        obtain ⟨_, _, _, _, rfl⟩ := writeStats_ok hwrite
        exact ⟨rfl, rfl, rfl, rfl, rfl, rfl, rfl⟩
    | recent _ => exact ⟨rfl, rfl, rfl, rfl, rfl, rfl, rfl⟩
    | live _ hreplace =>
        obtain ⟨_, rfl, _⟩ := writeLive_ok hreplace
        exact ⟨rfl, rfl, rfl, rfl, rfl, rfl, rfl⟩

theorem TournamentKeys.outsideTick {before after : Database}
    (hkeys : TournamentKeys before) (hsame : OutsideTick before after) :
    TournamentKeys after := by
  refine ⟨⟨?_, ?_⟩, ?_, ?_, ?_, ?_⟩
  · rw [hsame.liveStreams, hsame.roster]
    exact hkeys.rows
  · rw [hsame.hostLiveStreams, hsame.tournaments]
    exact hkeys.hosts
  · rw [hsame.tournaments]
    exact hkeys.slug_unique
  · rw [hsame.roster, hsame.tournaments]
    exact hkeys.entry_tournament
  · rw [hsame.teams, hsame.tournaments]
    exact hkeys.team_tournament
  · rw [hsame.owners, hsame.tournaments]
    exact hkeys.owner_tournament

section Requests

variable {registry registry' : Registry} {response : Response}

/-- What a request leaves of the worker's tables, all of them, and the keys of
what belongs to a tournament. -/
structure KeepsKeyed (before after : Database) : Prop where
  players : after.players = before.players
  ratings : after.playerRatings = before.playerRatings
  snapshots : after.playerRatingSnapshots = before.playerRatingSnapshots
  matchTable : after.matchTable = before.matchTable
  matchPlayers : after.matchPlayers = before.matchPlayers
  liveMatchPlayers : after.liveMatchPlayers = before.liveMatchPlayers
  tournament : TournamentKeys after

theorem WorkerKeys.keepsKeyed {before after : Database}
    (hkeys : WorkerKeys before) (hkept : KeepsKeyed before after) :
    WorkerKeys after := by
  constructor
  · rw [hkept.ratings, hkept.players]
    exact hkeys.rating_player
  · rw [hkept.snapshots, hkept.players]
    exact hkeys.snapshot_player
  · rw [hkept.matchPlayers, hkept.matchTable]
    exact hkeys.matchPlayer_match
  · rw [hkept.liveMatchPlayers, hkept.matchTable]
    exact hkeys.liveMatchPlayer_match

/-- The row of an `UPDATE` keeps its id and its slug. -/
theorem update_slugs_unique {tournaments : Table Tournament.id}
    (hunique : UniqueSlugs tournaments) {stored edited : Tournament}
    (hstored : stored ∈ tournaments.rows) (hid : edited.id = stored.id)
    (hslug : edited.slug = stored.slug) :
    UniqueSlugs (tournaments.overwrite edited) := by
  have hmem : ∀ t ∈ (tournaments.overwrite edited).rows,
      ∃ old ∈ tournaments.rows, old.id = t.id ∧ old.slug = t.slug := by
    intro t ht
    rcases (Table.mem_overwrite _).mp ht with rfl | ⟨hold, _⟩
    · exact ⟨stored, hstored, hid.symm, hslug.symm⟩
    · exact ⟨t, hold, rfl, rfl⟩
  intro left hleft right hright hsame
  obtain ⟨l, hl, hlId, hlSlug⟩ := hmem left hleft
  obtain ⟨r, hr, hrId, hrSlug⟩ := hmem right hright
  rw [← hlId, ← hrId]
  exact hunique l hl r hr (hlSlug.trans (hsame.trans hrSlug.symm))

/-- `create_tournament` inserts a slug that is free. -/
theorem createTournamentRow_slug {platform : Platform} {userId : String}
    {payload : TournamentCreate}
    (hok : createTournamentRow platform userId payload registry =
      .ok (response, registry')) :
    ∀ t ∈ registry.db.tournaments.rows, t.slug ≠ payload.slug := by
  unfold createTournamentRow createTournament at hok
  simp only at hok
  split at hok
  · cases hok
  · split at hok
    · cases hok
    · cases hwindow : requireOrderedWindow payload.startDate
        payload.endDate with
      | error raised =>
          rw [hwindow] at hok
          cases hok
      | ok _ =>
          cases hboard : requireSupportedLeaderboard registry.db
            payload.leaderboardId with
          | error raised =>
              rw [hwindow, hboard] at hok
              cases hok
          | ok _ =>
              rw [hwindow, hboard] at hok
              simp only [bind, Except.bind] at hok
              split at hok
              · cases hok
              · next hfree => simpa using hfree

theorem createTournamentRow_keyed {platform : Platform} {userId : String}
    {payload : TournamentCreate} (hkeys : TournamentKeys registry.db)
    (hok : createTournamentRow platform userId payload registry =
      .ok (response, registry')) : KeepsKeyed registry.db registry'.db := by
  have hfree := createTournamentRow_slug hok
  obtain ⟨_, _, rfl⟩ := createTournamentRow_ok hok
  have hkept := keepsKeys_insertNew registry.db.tournaments
    (tournamentOf payload (registry.lastTournamentId + 1) registry.now)
  refine ⟨rfl, rfl, rfl, rfl, rfl, rfl, ⟨⟨hkeys.rows, ?_⟩, ?_, ?_, ?_, ?_⟩⟩
  · exact Refers.of_keepsKeys hkeys.hosts hkept
  · refine registry.db.tournaments.forall_pairs_insertNew hkeys.slug_unique
      (fun other hother => ⟨fun hsame => ?_, fun hsame => ?_⟩) fun _ => rfl
    · exact absurd hsame (hfree other hother)
    · exact absurd hsame.symm (hfree other hother)
  · exact hkeys.entry_tournament.of_keepsKeys hkept
  · exact hkeys.team_tournament.of_keepsKeys hkept
  · refine (hkeys.owner_tournament.of_keepsKeys hkept).insertNew ?_
    exact find?_insertNew_self registry.db.tournaments
      (tournamentOf payload (registry.lastTournamentId + 1) registry.now)

theorem updateTournament_keyed {platform : Platform} {loaded : Tournament}
    {payload : TournamentUpdate} (hkeys : TournamentKeys registry.db)
    (hok : updateTournament platform loaded payload registry =
      .ok (response, registry')) : KeepsKeyed registry.db registry'.db := by
  obtain ⟨_, _, rfl | ⟨stored, hstored, rfl⟩⟩ := updateTournament_ok hok
  · exact ⟨rfl, rfl, rfl, rfl, rfl, rfl, hkeys⟩
  · have hkept := keepsKeys_overwrite registry.db.tournaments
      (payload.update loaded stored)
    refine ⟨rfl, rfl, rfl, rfl, rfl, rfl, ⟨⟨hkeys.rows, ?_⟩, ?_, ?_, ?_, ?_⟩⟩
    · exact Refers.of_keepsKeys hkeys.hosts hkept
    · exact update_slugs_unique hkeys.slug_unique
        (Table.mem_of_find? _ hstored) rfl rfl
    · exact hkeys.entry_tournament.of_keepsKeys hkept
    · exact hkeys.team_tournament.of_keepsKeys hkept
    · exact hkeys.owner_tournament.of_keepsKeys hkept

theorem cascadeTournament_keyed {db : Database} (hkeys : TournamentKeys db)
    (id : Int) : KeepsKeyed db (cascadeTournament db id) := by
  have hother : ∀ tournamentId : Int, decide (tournamentId ≠ id) = true →
      ∀ t ∈ db.tournaments.rows, t.id = tournamentId →
        decide (t.id ≠ id) = true := by
    rintro _ hne t _ rfl
    exact hne
  refine ⟨rfl, rfl, rfl, rfl, rfl, rfl,
    ⟨hkeys.toReferences.removal (.tournament id), ?_, ?_, ?_, ?_⟩⟩
  · exact fun left hleft right hright =>
      hkeys.slug_unique left (List.mem_of_mem_filter hleft) right
        (List.mem_of_mem_filter hright)
  · exact hkeys.entry_tournament.cascade fun entry _ hne =>
      hother entry.tournamentId hne
  · exact hkeys.team_tournament.cascade fun team _ hne =>
      hother team.tournamentId hne
  · exact hkeys.owner_tournament.cascade fun owner _ hne =>
      hother owner.tournamentId hne

theorem TournamentKeys.writeRoster {db : Database} (hkeys : TournamentKeys db)
    {entries : Table TournamentPlayer.id}
    (hkept : KeepsKeys db.tournamentPlayers entries)
    (hentries : Refers entries (·.tournamentId) db.tournaments) :
    KeepsKeyed db { db with tournamentPlayers := entries } :=
  ⟨rfl, rfl, rfl, rfl, rfl, rfl,
    ⟨⟨Refers.of_keepsKeys hkeys.rows hkept, hkeys.hosts⟩, hkeys.slug_unique,
      hentries, hkeys.team_tournament, hkeys.owner_tournament⟩⟩

theorem insertRosterRow_keyed {tournamentId : Int}
    {payload : RosterPlayerCreate} (hkeys : TournamentKeys registry.db)
    (htournament :
      (registry.db.tournaments.find? tournamentId).isSome = true)
    (hok : insertRosterRow registry tournamentId payload = .ok registry') :
    KeepsKeyed registry.db registry'.db := by
  obtain ⟨_, _, rfl⟩ := insertRosterRow_ok hok
  exact hkeys.writeRoster (keepsKeys_insertNew _ _)
    (hkeys.entry_tournament.insertNew htournament)

theorem updateRosterPlayer_keyed {tournament : Tournament} {id : Int}
    {payload : RosterPlayerUpdate} (hkeys : TournamentKeys registry.db)
    (hok : updateRosterPlayer tournament id payload registry =
      .ok (response, registry')) : KeepsKeyed registry.db registry'.db := by
  obtain ⟨_, entry, profileId, hfind, _, rfl⟩ := updateRosterPlayer_ok hok
  have hentry := hkeys.entry_tournament entry (rosterRowById_eq_some hfind).1
  exact hkeys.writeRoster (keepsKeys_overwrite _ _)
    (hkeys.entry_tournament.overwrite hentry)

theorem cascadeRosterRow_keyed {db : Database} (hkeys : TournamentKeys db)
    (id : Int) : KeepsKeyed db (cascadeRosterRow db id) :=
  ⟨rfl, rfl, rfl, rfl, rfl, rfl,
    ⟨hkeys.toReferences.removal (.rosterRow id), hkeys.slug_unique,
      hkeys.entry_tournament.of_subset fun _ hrow =>
        List.mem_of_mem_filter hrow,
      hkeys.team_tournament, hkeys.owner_tournament⟩⟩

/-- Writes to the teams, their members and the owners, of tournaments that are
there. -/
theorem TournamentKeys.writeTeams {db : Database} (hkeys : TournamentKeys db)
    {teams : Table Team.id} {members : Table TeamMember.key}
    {owners : Table TournamentOwner.key}
    (hteams : Refers teams (·.tournamentId) db.tournaments)
    (howners : Refers owners (·.tournamentId) db.tournaments) :
    KeepsKeyed db { db with
      teams := teams, teamMembers := members, tournamentOwners := owners } :=
  ⟨rfl, rfl, rfl, rfl, rfl, rfl,
    ⟨⟨hkeys.rows, hkeys.hosts⟩, hkeys.slug_unique, hkeys.entry_tournament,
      hteams, howners⟩⟩

theorem TournamentKeys.writeMembers {db : Database}
    (hkeys : TournamentKeys db) (members : Table TeamMember.key) :
    KeepsKeyed db { db with teamMembers := members } :=
  hkeys.writeTeams hkeys.team_tournament hkeys.owner_tournament

theorem KeepsKeyed.refl {db : Database} (hkeys : TournamentKeys db) :
    KeepsKeyed db db :=
  hkeys.writeMembers db.teamMembers

/-- A route keeps what its handler keeps, called with what its gate let
through. -/
theorem routed_keyed {G P : Type} {gate : Except Raised G} {scope : String}
    {bound : Nat} {payload : Except BodyError P} {http : Request}
    {handler : G → P → Registry → Except Raised (Response × Registry)}
    (hkeys : TournamentKeys registry.db)
    (hhandler : ∀ gated valid hits response registry', gate = .ok gated →
      TournamentKeys ({ registry with hits := hits } : Registry).db →
        handler gated valid { registry with hits := hits } =
          .ok (response, registry') →
        KeepsKeyed ({ registry with hits := hits } : Registry).db
          registry'.db) :
    KeepsKeyed registry.db
      (routed (admitted gate scope bound payload http registry) handler
        registry).2.db :=
  routed_invariant (fun after => KeepsKeyed registry.db after.db) (.refl hkeys)
    (fun _ => .refl hkeys)
    fun gated valid hits response registry' hadmitted hok =>
      hhandler gated valid hits response registry' (admitted_ok hadmitted).1
        hkeys hok

variable {platform : Platform} {http : Request}

theorem ownerGate_find? {slug : String} {tournament : Tournament}
    (hok : ownerGate platform http registry slug = .ok tournament) :
    (registry.db.tournaments.find? tournament.id).isSome = true :=
  find?_isSome_of_mem
    (List.mem_of_find?_eq_some (ownerGate_eq_ok.mp hok).1)

theorem ManagementCall.answer_keyed (hkeys : TournamentKeys registry.db)
    (call : ManagementCall) :
    KeepsKeyed registry.db (call.answer platform http registry).2.db := by
  cases call with
  | createTournament payload =>
      exact routed_keyed hkeys fun _ _ _ _ _ _ hcounted hok =>
        createTournamentRow_keyed hcounted hok
  | updateTournament slug payload =>
      exact routed_keyed hkeys fun _ _ _ _ _ _ hcounted hok =>
        updateTournament_keyed hcounted hok
  | deleteTournament slug =>
      refine routed_keyed hkeys fun tournament _ _ _ _ _ _ hok => ?_
      cases hok
      exact cascadeTournament_keyed hkeys tournament.id
  | grantTournamentOwner slug payload =>
      refine routed_keyed hkeys fun _ _ _ _ _ hgate _ hok => ?_
      obtain ⟨_, _, rfl⟩ := grantTournamentOwner_ok hok
      exact hkeys.writeTeams hkeys.team_tournament
        (hkeys.owner_tournament.insertNew (ownerGate_find? hgate))
  | revokeTournamentOwner slug userId =>
      refine routed_keyed hkeys fun _ _ _ _ _ _ _ hok => ?_
      obtain ⟨_, _, rfl⟩ := revokeTournamentOwner_ok hok
      exact hkeys.writeTeams hkeys.team_tournament
        (hkeys.owner_tournament.of_subset fun _ hrow =>
          List.mem_of_mem_filter hrow)
  | addRosterPlayer slug payload =>
      refine routed_keyed hkeys fun _ _ _ _ _ hgate hcounted hok => ?_
      have htournament := ownerGate_find? hgate
      exact insertRosterRow_keyed hcounted htournament (addRosterPlayer_ok hok).2
  | removeRosterPlayer slug id =>
      refine routed_keyed hkeys fun _ _ _ _ _ _ _ hok => ?_
      obtain ⟨_, rfl⟩ := removeRosterPlayer_ok hok
      exact cascadeRosterRow_keyed hkeys id
  | updateRosterPlayer slug id payload =>
      exact routed_keyed hkeys fun _ _ _ _ _ _ hcounted hok =>
        updateRosterPlayer_keyed hcounted hok
  | createTeam slug payload =>
      refine routed_keyed hkeys fun _ _ _ _ _ hgate _ hok => ?_
      cases hok
      exact hkeys.writeTeams
        (hkeys.team_tournament.insertNew (ownerGate_find? hgate))
        hkeys.owner_tournament
  | updateTeam slug teamId payload =>
      refine routed_keyed hkeys fun team _ _ _ _ hgate _ hok => ?_
      cases hok
      exact hkeys.writeTeams
        (hkeys.team_tournament.overwrite
          (hkeys.team_tournament team (getOwnedTeam_ok hgate).1))
        hkeys.owner_tournament
  | deleteTeam slug teamId =>
      refine routed_keyed hkeys fun _ _ _ _ _ _ _ hok => ?_
      cases hok
      exact hkeys.writeTeams
        (hkeys.team_tournament.of_subset fun _ hrow =>
          List.mem_of_mem_filter hrow)
        hkeys.owner_tournament
  | addTeamMember slug teamId payload =>
      refine routed_keyed hkeys fun _ _ _ _ _ _ _ hok => ?_
      obtain ⟨_, _, _, _, rfl⟩ := addTeamMember_ok hok
      exact hkeys.writeMembers _
  | removeTeamMember slug teamId id =>
      refine routed_keyed hkeys fun _ _ _ _ _ _ _ hok => ?_
      obtain ⟨_, _, hok⟩ := bind_eq_ok.mp hok
      cases hok
      exact hkeys.writeMembers _
  | setTeamCaptain slug teamId payload =>
      refine routed_keyed hkeys fun _ _ _ _ _ _ _ hok => ?_
      obtain ⟨_, _, _, ⟨_, rfl⟩ | rfl⟩ := setTeamCaptain_ok hok
      · exact .refl hkeys
      · exact hkeys.writeMembers _
  | clearTeamCaptain slug teamId =>
      refine routed_keyed hkeys fun _ _ _ _ _ _ _ hok => ?_
      obtain ⟨_, rfl | rfl⟩ := clearTeamCaptain_ok hok
      · exact .refl hkeys
      · exact hkeys.writeMembers _

end Requests

section Transactions

variable {codec : Codec} {platform : Platform} {registry registry' : Registry}

/-- A call of `_apply_live_sets` writes over what exists, or nothing. -/
theorem liveSets_cases (call : LiveCall) (db : Database) :
    committedState db ((call.apply db).map Prod.snd) = db ∨
      Existing db call.liveRows call.liveHosts ∧
        committedState db ((call.apply db).map Prod.snd) =
          rewritten db call.platform call.liveRows call.liveHosts call.now := by
  rw [LiveCall.apply]
  by_cases hsnapshot : Snapshot db call.platform call.liveRows call.liveHosts
  · rw [applyLiveSets_of_snapshot call.now hsnapshot]
    exact Or.inl rfl
  · by_cases hexisting : Existing db call.liveRows call.liveHosts
    · rw [applyLiveSets_of_existing call.now hsnapshot hexisting]
      exact Or.inr ⟨hexisting, rfl⟩
    · rw [applyLiveSets_of_vanished call.now hsnapshot hexisting]
      exact Or.inl rfl

theorem Sound.liveSets (hsound : Sound registry) (call : LiveCall) :
    Sound (Transaction.commit codec platform registry (.liveSets call)) := by
  obtain ⟨hmanaged, hworker, hkeys⟩ := hsound
  rcases liveSets_cases call registry.db with hkept | ⟨hexisting, hwritten⟩
  · rw [Transaction.commit, hkept]
    exact ⟨hmanaged, hworker, hkeys⟩
  · rw [Transaction.commit, hwritten]
    refine ⟨hmanaged.congr ⟨rfl, rfl, rfl, rfl, rfl, rfl, rfl, rfl⟩,
      ⟨hworker.rating_player, hworker.snapshot_player,
        hworker.matchPlayer_match, hworker.liveMatchPlayer_match⟩,
      ⟨hkeys.toReferences.rewritten hexisting call.now, hkeys.slug_unique,
        hkeys.entry_tournament, hkeys.team_tournament, hkeys.owner_tournament⟩⟩

theorem foldl_upsertLeaderboard (rows : List Leaderboard) (db : Database) :
    rows.foldl upsertLeaderboard db =
      { db with leaderboards := db.leaderboards.overwriteAll rows } := by
  induction rows generalizing db with
  | nil => rfl
  | cons row rows ih => exact ih (upsertLeaderboard db row)

theorem foldl_upsertCivilization (rows : List Civilization) (db : Database) :
    rows.foldl upsertCivilization db =
      { db with civilizations := db.civilizations.overwriteAll rows } := by
  induction rows generalizing db with
  | nil => rfl
  | cons row rows ih => exact ih (upsertCivilization db row)

theorem loadLeaderboards_cases (now : Instant) (payload : Json)
    (db : Database) :
    ∃ leaderboards civilizations, (loadLeaderboards now payload db).1 =
      { db with leaderboards := leaderboards, civilizations := civilizations } := by
  rw [loadLeaderboards, storeLeaderboards_eq]
  cases boundLeaderboards now payload with
  | error error => exact ⟨db.leaderboards, db.civilizations, rfl⟩
  | ok bound =>
      simp only [Except.map, foldl_upsertLeaderboard, foldl_upsertCivilization]
      exact ⟨_, _, rfl⟩

theorem Sound.commit (hsound : Sound registry) (transaction : Transaction) :
    Sound (transaction.commit codec platform registry) := by
  obtain ⟨hmanaged, hworker, hkeys⟩ := hsound
  cases transaction with
  | request request =>
      have hkept : KeepsKeyed registry.db
          (request.call.answer platform request.http registry).2.db :=
        request.call.answer_keyed hkeys
      exact ⟨(request.call.answer_keeps hmanaged).managed,
        hworker.keepsKeyed hkept, hkept.tournament⟩
  | tick mapping tick =>
      have hsame := outsideTick_commit codec mapping tick registry.db
      exact ⟨hmanaged.congr ⟨hsame.tournaments, hsame.roster, hsame.owners,
          hsame.teams, hsame.members, rfl, rfl, rfl⟩,
        hworker.commit codec mapping tick, hkeys.outsideTick hsame⟩
  | liveSets call => exact Sound.liveSets ⟨hmanaged, hworker, hkeys⟩ call
  | leaderboards now payload =>
      obtain ⟨leaderboards, civilizations, hdb⟩ :=
        loadLeaderboards_cases now payload registry.db
      rw [Transaction.commit, hdb]
      exact ⟨hmanaged.congr ⟨rfl, rfl, rfl, rfl, rfl, rfl, rfl, rfl⟩,
        ⟨hworker.rating_player, hworker.snapshot_player,
          hworker.matchPlayer_match, hworker.liveMatchPlayer_match⟩,
        hkeys.outsideTick ⟨rfl, rfl, rfl, rfl, rfl, rfl, rfl⟩⟩
  | creators allowlist =>
      exact ⟨hmanaged.congr ⟨rfl, rfl, rfl, rfl, rfl, rfl, rfl, rfl⟩,
        ⟨hworker.rating_player, hworker.snapshot_player,
          hworker.matchPlayer_match, hworker.liveMatchPlayer_match⟩,
        hkeys.outsideTick ⟨rfl, rfl, rfl, rfl, rfl, rfl, rfl⟩⟩
  | elapse now hits =>
      exact ⟨hmanaged.congr ⟨rfl, rfl, rfl, rfl, rfl, rfl, rfl, rfl⟩,
        hworker, hkeys⟩

end Transactions

theorem sound_empty {registry : Registry} (hempty : registry.db = .empty) :
    Sound registry := by
  have hnone : NoTournaments registry.db := by
    rw [hempty]
    exact ⟨rfl, rfl, rfl, rfl, rfl⟩
  refine ⟨hnone.managed, ?_, ?_⟩
  · rw [hempty]
    exact ⟨.empty, .empty, .empty, .empty⟩
  · rw [hempty]
    exact ⟨⟨Refers.empty, Refers.empty⟩, nofun, .empty, .empty, .empty⟩

theorem sound_of_run {codec : Codec} {platform : Platform}
    {start registry : Registry} {transactions : List Transaction}
    (hempty : start.db = .empty)
    (hrun : Run (DeploymentStep codec platform) start transactions registry) :
    Sound registry := by
  refine hrun.invariant Sound (sound_empty hempty) ?_
  intro reached transaction next hreached hstep
  cases hstep with
  | commit => exact hreached.commit transaction

/-- Whatever requests, ticks and operator edits follow each other over a
freshly migrated database, every unique constraint and foreign key of the
schema holds in every state, and so do the invariants of the management
tables. -/
theorem deployment_intact (codec : Codec) (platform : Platform)
    {start registry : Registry} {transactions : List Transaction}
    (hempty : start.db = .empty)
    (hrun : Run (DeploymentStep codec platform) start transactions registry) :
    registry.db.Intact ∧ Managed registry := by
  have hsound := sound_of_run hempty hrun
  exact ⟨hsound.intact, hsound.managed⟩

/-- The state after some transactions, one after the other. -/
def afterTransactions (codec : Codec) (platform : Platform)
    (transactions : List Transaction) (start : Registry) : Registry :=
  transactions.foldl (Transaction.commit codec platform) start

theorem run_afterTransactions (codec : Codec) (platform : Platform)
    (transactions : List Transaction) (start : Registry) :
    Run (DeploymentStep codec platform) start transactions
      (afterTransactions codec platform transactions start) := by
  have hrun : Run (DeploymentStep codec platform) start
      (transactions.map id)
      (afterTransactions codec platform transactions start) :=
    Run.foldl id (Transaction.commit codec platform) transactions
      fun earlier transaction _ => .commit _ transaction
  rwa [List.map_id] at hrun

namespace DeploymentWitness

open ManagementWitness ManagementRunWitness

/-- One ranked ladder. -/
def ladders : Json :=
  .obj [("leaderboards", .arr [.obj [("id", .int 3),
    ("name", .str "SOLO_RM_RANKED"), ("isranked", .int 1)]])]

def fresh : Registry := { registry with db := .empty }

/-- The operator approves a creator and the ladders are loaded; then a
tournament with one player, who goes live. -/
def transactions : List Transaction :=
  [.creators (Table.empty.insertNew ⟨defaultTestUserId, 0⟩),
    .leaderboards 0 ladders,
    .request (request (.createTournament (.ok springCup))),
    .request (request (.addRosterPlayer "spring-cup" (.ok alice))),
    .liveSets (SnapshotWitness.bothLive platformTwitch "ladder" 1)]

end DeploymentWitness

open ManagementWitness DeploymentWitness in
/-- The last of the transactions stores a stream. -/
theorem deployment_intact_transactions :
    (afterTransactions BatchWitness.codec platform transactions
        fresh).db.liveStreams.rows.length = 1 ∧
      (afterTransactions BatchWitness.codec platform transactions
        fresh).db.Intact :=
  ⟨by decide,
    (deployment_intact BatchWitness.codec platform rfl
      (run_afterTransactions _ _ transactions fresh)).1⟩

end LiveStandings
