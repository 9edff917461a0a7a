/-
What the standings say about one entrant's play: recent results, the record
within the tournament window, and the live match.  Each function gives the
entry of one profile; rows that SQL leaves unordered come in table order.
-/
import LiveStandings.Models
import LiveStandings.Library.PyText
import LiveStandings.Library.Ranking

namespace LiveStandings

open KeyedTable PyJson Ranking

/-- `_RECENT_RESULTS_LIMIT`. -/
def recentResultsLimit : Nat := 10

/-- The columns of a match that the queries select or filter on. -/
structure PlayedMatch where
  matchId : Int
  mapName : String
  leaderboardId : Option Int
  startedAt : Instant
  completedAt : Option Instant
deriving Repr, DecidableEq

def Match.played (m : Match) : PlayedMatch where
  matchId := m.matchId
  mapName := m.mapName
  leaderboardId := m.leaderboardId
  startedAt := m.startedAt
  completedAt := m.completedAt

/-- A match-player row joined to its match. -/
structure Game where
  row : MatchPlayer
  played : PlayedMatch
deriving Repr, DecidableEq

/-- The join of a match-player row. -/
def joinMatch (db : Database) (row : MatchPlayer) : Option Game :=
  (db.matchTable.find? row.matchId).map fun m => ⟨row, m.played⟩

/-- The games of a profile. -/
def games (db : Database) (profileId : Int) : List Game :=
  (db.matchPlayers.rows.filter (·.profileId = profileId)).filterMap
    (joinMatch db)

/-- The games on a leaderboard that have an outcome, newest first. -/
def decidedGames (db : Database) (leaderboardId profileId : Int) : List Game :=
  sortBy (fun game => -game.played.startedAt)
    ((games db profileId).filter fun game =>
      game.played.leaderboardId = some leaderboardId && game.row.outcome.isSome)

/-- `_recent_results_by_profile`. -/
def recentResultsByProfile (db : Database) (leaderboardId profileId : Int) :
    List MatchOutcome :=
  ((decidedGames db leaderboardId profileId).take recentResultsLimit).filterMap
    (·.row.outcome)

/-- `_LIVE_MATCH_STATES`. -/
def liveMatchStates : List MatchState := [.staging, .inProgress]

/-- `_live_match_by_profile`: of several live matches the last by id. -/
def liveMatchByProfile (db : Database) (profileId : Int) : Option Int :=
  ((sortBy (·.matchId) (db.liveMatchPlayers.rows.filter fun link =>
    link.profileId = profileId &&
      (db.matchTable.find? link.matchId).any fun row =>
        liveMatchStates.contains row.state)).getLast?).map (·.matchId)

/-- `_StreamLive`. -/
structure StreamLive where
  title : Option String
  category : Option String
deriving Repr, DecidableEq

/-- `PLATFORM_TWITCH`. -/
def platformTwitch : String := "twitch"

/-- `_stream_live_roster_rows`: the first row wins, but Twitch overrides. -/
def streamLiveRosterRows (db : Database) (tournamentPlayerId : Int) :
    Option StreamLive :=
  (db.liveStreams.rows.filter
    (·.tournamentPlayerId = tournamentPlayerId)).foldl (fun live row =>
      if live.isNone || row.platform = platformTwitch then
        some ⟨row.title, row.category⟩
      else live) none

/-- `_resolve_display_name`. -/
def resolveDisplayName (name : String) (presentation : List (String × Json)) :
    String :=
  match presentation.lookup "displayName" with
  | some (.str display) => if PyText.isBlank display then name else display
  | _ => name

/-- `_roster_label_by_profile`: the roster id and label of a fellow entrant. -/
def rosterLabelByProfile (db : Database) (tournamentId profileId : Int) :
    Option (Int × String) :=
  (db.tournamentPlayers.rows.reverse.find? fun entry =>
    entry.tournamentId = tournamentId && entry.profileId = some profileId).map
      fun entry => (entry.id, resolveDisplayName entry.name entry.presentation)

/-- `_aliases_by_profile`. -/
def aliasesByProfile (db : Database) (profileId : Int) : Option String :=
  (db.profileAliases.find? profileId).map (·.aliasName)

/-- What `_longest_win_run` carries through its loop. -/
structure WinRun where
  bestLen : Nat
  bestStart : Option Instant
  bestEnd : Option Instant
  runLen : Nat
  runEnd : Option Instant
deriving Repr, DecidableEq

/-- One newest-first outcome. -/
def WinRun.push (run : WinRun) (outcome : MatchOutcome)
    (completedAt : Option Instant) : WinRun :=
  match outcome with
  | .loss => { run with runLen := 0 }
  | .win =>
      let runEnd := if run.runLen = 0 then completedAt else run.runEnd
      let runLen := run.runLen + 1
      if run.bestLen < runLen then ⟨runLen, completedAt, runEnd, runLen, runEnd⟩
      else { run with runLen := runLen, runEnd := runEnd }

/-- `_longest_win_run`: the length, the oldest and the newest win of the
longest run. -/
def longestWinRun (outcomes : List (MatchOutcome × Option Instant)) :
    Nat × Option Instant × Option Instant :=
  let run := outcomes.foldl
    (fun (run : WinRun) pair => run.push pair.1 pair.2) ⟨0, none, none, 0, none⟩
  (run.bestLen, run.bestStart, run.bestEnd)

/-- `MatchupOpponent`. -/
structure MatchupOpponent where
  profileId : Int
  tournamentPlayerId : Option Int
  name : Option String
  civilizationId : Option Int
  civilizationName : Option String
deriving Repr, DecidableEq

/-- `RecentMatchup`. -/
structure RecentMatchup where
  outcome : Option MatchOutcome
  civilizationId : Int
  civilizationName : Option String
  opponents : List MatchupOpponent
  opponentCivilizationId : Option Int
  opponentCivilizationName : Option String
  opponentProfileId : Option Int
  opponentTournamentPlayerId : Option Int
  opponentName : Option String
  mapName : String
  completedAt : Option Instant
deriving Repr, DecidableEq

/-- `TournamentRecord`. -/
structure TournamentRecord where
  gamesPlayed : Nat
  wins : Nat
  losses : Nat
  streak : Int
  longestWinStreak : Nat
  peakRating : Option Int
  lastMatchAt : Option Instant
  recentMatchups : List RecentMatchup
deriving Repr, DecidableEq

/-- The record of a profile without games in the window. -/
def TournamentRecord.zero : TournamentRecord where
  gamesPlayed := 0
  wins := 0
  losses := 0
  streak := 0
  longestWinStreak := 0
  peakRating := none
  lastMatchAt := none
  recentMatchups := []

/-- A start time within `[start_date, end_date]`; a null bound is open. -/
def Tournament.inWindow (t : Tournament) (startedAt : Instant) : Bool :=
  (t.startDate.all fun start => start ≤ startedAt) &&
    t.endDate.all fun bound => startedAt ≤ bound

/-- The decided games within the window, newest first. -/
def windowGames (db : Database) (t : Tournament) (profileId : Int) :
    List Game :=
  (decidedGames db t.leaderboardId profileId).filter fun game =>
    t.inWindow game.played.startedAt

/-- `_opponents_of`: the players of the other teams, by profile id. -/
def opponentsOf (db : Database) (game : Game) : List MatchPlayer :=
  sortBy (·.profileId) (db.matchPlayers.rows.filter fun row =>
    row.matchId = game.row.matchId &&
      row.profileId ≠ game.row.profileId && row.teamId ≠ game.row.teamId)

/-- `_matchup_opponents`: a fellow entrant under its roster label, anyone else
under its polled alias. -/
def matchupOpponents (db : Database) (t : Tournament) (names : Dict Int String)
    (game : Game) : List MatchupOpponent :=
  (opponentsOf db game).map fun opponent =>
    let label := rosterLabelByProfile db t.id opponent.profileId
    { profileId := opponent.profileId
      tournamentPlayerId := label.map (·.1)
      name :=
        match label with
        | some label => some label.2
        | none => aliasesByProfile db opponent.profileId
      civilizationId := some opponent.civilizationId
      civilizationName := names.get? opponent.civilizationId }

/-- `_build_recent_matchup`: the scalar fields are set iff there is exactly one
opponent. -/
def buildRecentMatchup (game : Game) (opponents : List MatchupOpponent)
    (names : Dict Int String) : RecentMatchup :=
  let single :=
    match opponents with
    | [opponent] => some opponent
    | _ => none
  { outcome := game.row.outcome
    civilizationId := game.row.civilizationId
    civilizationName := names.get? game.row.civilizationId
    opponents := opponents
    opponentCivilizationId := single.bind (·.civilizationId)
    opponentCivilizationName := single.bind (·.civilizationName)
    opponentProfileId := single.map (·.profileId)
    opponentTournamentPlayerId := single.bind (·.tournamentPlayerId)
    opponentName := single.bind (·.name)
    mapName := game.played.mapName
    completedAt := game.played.completedAt }

/-- The signed leading run of one outcome. -/
def leadingStreak : List MatchOutcome → Int
  | [] => 0
  | lead :: rest =>
      let run : Int := ((lead :: rest).takeWhile (· = lead)).length
      if lead = .win then run else -run

/-- `_tournament_record_by_profile`. -/
def tournamentRecordByProfile (db : Database) (t : Tournament)
    (names : Dict Int String) (profileId : Int) : TournamentRecord :=
  match windowGames db t profileId with
  | [] => .zero
  | newest :: older =>
      let rows := newest :: older
      let outcomes := rows.filterMap (·.row.outcome)
      let wins := outcomes.countP (· = .win)
      { gamesPlayed := outcomes.length
        wins := wins
        losses := outcomes.length - wins
        streak := leadingStreak outcomes
        longestWinStreak := (longestWinRun (rows.filterMap fun game =>
          game.row.outcome.map fun outcome =>
            (outcome, game.played.completedAt))).1
        peakRating := (rows.filterMap (·.row.newRating)).max?
        lastMatchAt := some newest.played.startedAt
        recentMatchups := (rows.take recentResultsLimit).map fun game =>
          buildRecentMatchup game (matchupOpponents db t names game) names }

end LiveStandings
