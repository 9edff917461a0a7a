/-
Civ picks and wins.  One query groups the decided games by profile and civ;
the endpoints add its groups up over the roster and over each team.  The same
games make up the records, so the sums agree with theirs.
-/
import LiveStandings.WinStreaks
import LiveStandings.Standings
import LiveStandings.Library.Tally
import Mathlib.Algebra.Group.Nat.Defs
import Mathlib.Algebra.Group.Prod

namespace LiveStandings

open KeyedTable PyJson Ranking Tally

/-- `CivStat`. -/
structure CivStat where
  civilizationId : Int
  name : Option String
  picks : Nat
  wins : Nat
deriving Repr, DecidableEq

/-- `[picks, wins]`. -/
abbrev CivCount := Nat × Nat

/-- `_sorted_civ_stats`: most played first, then by civ id. -/
def sortedCivStats (counts : List (Int × CivCount)) (names : Dict Int String) :
    List CivStat :=
  (sortBy (fun entry : Int × CivCount => toLex (-(entry.2.1 : Int), entry.1))
    counts).map fun entry =>
      { civilizationId := entry.1
        name := names.get? entry.1
        picks := entry.2.1
        wins := entry.2.2 }

/-- The rows that `_civ_counts_by_profile` groups. -/
def civGames (db : Database) (t : Tournament) (profileIds : List Int) :
    List Game :=
  (db.matchPlayers.rows.filterMap (joinMatch db)).filter fun game =>
    game.played.leaderboardId = some t.leaderboardId &&
      profileIds.contains game.row.profileId && game.row.outcome.isSome &&
        game.row.civilizationId ≠ unknownCivilizationId &&
          t.inWindow game.played.startedAt

/-- `outcome == WIN`. -/
def Game.won (game : Game) : Bool := game.row.outcome = some .win

/-- A row of the grouped query. -/
structure CivGroup where
  profileId : Int
  civilizationId : Int
  picks : Nat
  wins : Nat
  lastCompletedAt : Option Instant
deriving Repr, DecidableEq

/-- The aggregates of a group. -/
def civGroup (group : (Int × Int) × List Game) : CivGroup where
  profileId := group.1.1
  civilizationId := group.1.2
  picks := group.2.length
  wins := (group.2.map fun game => if game.won then 1 else 0).sum
  lastCompletedAt := (group.2.filterMap (·.played.completedAt)).max?

/-- The grouped query. -/
def civGroups (db : Database) (t : Tournament) (profileIds : List Int) :
    List CivGroup :=
  (groupBy (fun game : Game => (game.row.profileId, game.row.civilizationId))
    (civGames db t profileIds)).map civGroup

/-- `_civ_counts_by_profile`. -/
def civCountsByProfile (db : Database) (t : Tournament)
    (profileIds : List Int) :
    List (Int × List (Int × CivCount)) × Option Instant :=
  if profileIds.isEmpty then ([], none)
  else
    let groups := civGroups db t profileIds
    ((groups.map fun group =>
        (group.profileId, group.civilizationId, group.picks, group.wins)).foldl
          assign [],
      computeLastPolledAt (groups.map (·.lastCompletedAt)))

/-- A row of `/teams/standings` with its civs. -/
structure TeamCivRow extends TeamStandingRow where
  civs : List CivStat
deriving Repr, DecidableEq

/-- The row of a team: the civ counts of its linked members, added up. -/
def teamCivRow (db : Database) (t : Tournament) (names : Dict Int String)
    (now : Instant) (team : Team) : TeamCivRow :=
  let row := teamStandingRow db t names now team
  let counts := (civCountsByProfile db t
    ((memberRows db t).filterMap (·.entry.profileId))).1
  { row with
    civs := sortedCivStats (merge (row.members.filterMap fun member =>
      member.profileId.map fun profileId =>
        (counts.lookup profileId).getD [])) names }

/-- `get_team_standings` with the civs. -/
def getTeamCivStandings (db : Database) (t : Tournament)
    (names : Dict Int String) (now : Instant) : ListEnvelope TeamCivRow where
  lastPolledAt := (getTeamStandings db t names now).lastPolledAt
  items := sortBy (fun row => -row.combinedRatingSum)
    ((db.teams.rows.filter (·.tournamentId = t.id)).map
      (teamCivRow db t names now))

theorem toTeamStandingRow_getTeamCivStandings (db : Database) (t : Tournament)
    (names : Dict Int String) (now : Instant) :
    (getTeamCivStandings db t names now).items.map (·.toTeamStandingRow) =
      (getTeamStandings db t names now).items := by
  simp only [getTeamCivStandings, getTeamStandings, sortBy_map, List.map_map]
  rfl

/-! What one profile has played. -/

section Sorted

variable (counts : List (Int × CivCount)) (names : Dict Int String)

end Sorted

namespace CivWitness

open Factory

def cup : Tournament := makeTournament .peakRating none none

/-- Three games of the first entrant: two on one civ, one with the sentinel. -/
def played : Database :=
  { seed [] [] [makeMatch 10 100 200, makeMatch 11 300 400,
      makeMatch 12 500 600]
      [makeMatchPlayer 10 1 1000 1010,
        { makeMatchPlayer 11 1 1010 1000 with outcome := some .loss },
        { makeMatchPlayer 12 1 1000 1020 with
          civilizationId := unknownCivilizationId },
        { makeMatchPlayer 12 2 1000 990 with
          civilizationId := 5, teamId := 1, outcome := some .loss }] with
    teams := Table.empty.insertAll [⟨1, 1, "Reds", "R"⟩]
    teamMembers := Table.empty.insertAll [⟨1, 1, true⟩, ⟨1, 2, false⟩] }

end CivWitness

end LiveStandings
