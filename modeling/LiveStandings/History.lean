/-
The standings over time.  Each entrant's completed games and recorded
observations are swept once along a time axis; at every stop the roster and the
teams are ranked, and the frames where the order changed are kept.
-/
import LiveStandings.Standings
import LiveStandings.Library.Sweep
import LiveStandings.Library.Highest

namespace LiveStandings

open KeyedTable PyJson Ranking Sweep Highest

/-- The join of the `/standings/history` query. -/
def historyRow (db : Database) (t : Tournament) (entry : TournamentPlayer) :
    RosterRow :=
  ⟨entry, entry.profileId.bind db.players.find?,
    entry.profileId.bind (liveRating db t)⟩

/-- `roster`: gated like `/standings`. -/
def historyRoster (db : Database) (t : Tournament) : List RosterRow :=
  ((db.tournamentPlayers.rows.filter (·.tournamentId = t.id)).map
    (historyRow db t)).filter RosterRow.visible

/-- A completed game with settled ratings, as the queries select it. -/
structure LoggedGame where
  matchId : Int
  startedAt : Instant
  completedAt : Instant
  oldRating : Option Int
  newRating : Int
deriving Repr, DecidableEq

def loggedGame (t : Tournament) (game : Game) : Option LoggedGame := do
  let completedAt ← game.played.completedAt
  let newRating ← game.row.newRating
  if game.played.leaderboardId = some t.leaderboardId then
    some ⟨game.played.matchId, game.played.startedAt, completedAt,
      game.row.oldRating, newRating⟩
  else none

/-- The logged games of a profile whose start is wanted, in order of
completion. -/
def loggedGames (db : Database) (t : Tournament) (wanted : Instant → Bool)
    (profileId : Int) : List LoggedGame :=
  sortBy (fun game => toLex (game.completedAt, game.matchId))
    (((games db profileId).filterMap (loggedGame t)).filter fun game =>
      wanted game.startedAt)

def LoggedGame.point (game : LoggedGame) : Instant × Int :=
  (game.completedAt, game.newRating)

/-- `points_by_tp`. -/
def pointsByProfile (db : Database) (t : Tournament) (profileId : Int) :
    List (Instant × Int) :=
  (loggedGames db t t.inWindow profileId).map LoggedGame.point

/-- `entry_old_by_tp`: the rating held entering the window. -/
def entryOldByProfile (db : Database) (t : Tournament) (profileId : Int) :
    Option Int :=
  (loggedGames db t t.inWindow profileId).head?.bind (·.oldRating)

/-- A rating above the live peak belongs to a dead scale and starts the fold
anew. -/
def pushPreEvent (curMax : Option Int) (peak : Option Int)
    (game : LoggedGame) : Option Int :=
  let held := max (game.oldRating.getD 0) game.newRating
  if curMax.any (· < held) then none else raise peak held

/-- `pre_event_peak_by_tp`. -/
def preEventPeakByProfile (db : Database) (t : Tournament)
    (curMax : Option Int) (profileId : Int) : Option Int :=
  t.startDate.bind fun start =>
    (loggedGames db t (· < start) profileId).foldl (pushPreEvent curMax) none

/-- `snap_metric`: the observed column follows the rank metric. -/
def snapMetric (t : Tournament) (snapshot : PlayerRatingSnapshot) :
    Option Int :=
  match t.rankBy with
  | .currentRating => snapshot.currentRating
  | .peakRating => some snapshot.maxRating

/-- The snapshots of a profile that the chart reads, in order. -/
def chartedSnapshots (db : Database) (t : Tournament) (profileId : Int) :
    List PlayerRatingSnapshot :=
  sortBy (fun snapshot => toLex (snapshot.observedAt, snapshot.id))
    ((snapshotsOf db t profileId).filter fun snapshot =>
      (snapMetric t snapshot).isSome &&
        t.endDate.all fun bound => snapshot.observedAt ≤ bound)

/-- The observations of a profile's metric, oldest first. -/
def observations (db : Database) (t : Tournament) (profileId : Int) :
    List (Instant × Int) :=
  (chartedSnapshots db t profileId).filterMap fun snapshot =>
    (snapMetric t snapshot).map fun value => (snapshot.observedAt, value)

/-- An observation made by the start of the window. -/
def Tournament.preStart (t : Tournament) (observedAt : Instant) : Bool :=
  t.startDate.any fun start => observedAt ≤ start

/-- `snap_baseline_by_tp`: the latest observation made by the start. -/
def snapBaselineByProfile (db : Database) (t : Tournament) (profileId : Int) :
    Option Int :=
  (((observations db t profileId).filter fun point =>
    t.preStart point.1).getLast?).map (·.2)

/-- `snap_points_by_tp`. -/
def snapPointsByProfile (db : Database) (t : Tournament) (profileId : Int) :
    List (Instant × Int) :=
  (observations db t profileId).filter fun point => !t.preStart point.1

/-- What a profile has recorded, as the sweep reads it. -/
structure Series where
  points : List (Instant × Int)
  entryOld : Option Int
  preEventPeak : Option Int
  snapBaseline : Option Int
  snapPoints : List (Instant × Int)
deriving Repr, DecidableEq

/-- Nothing is recorded for an unlinked row. -/
def Series.empty : Series := ⟨[], none, none, none, []⟩

def seriesByProfile (db : Database) (t : Tournament) (curMax : Option Int)
    (profileId : Int) : Series where
  points := pointsByProfile db t profileId
  entryOld := entryOldByProfile db t profileId
  preEventPeak := preEventPeakByProfile db t curMax profileId
  snapBaseline := snapBaselineByProfile db t profileId
  snapPoints := snapPointsByProfile db t profileId

/-- `snap_base`: the latest observation made by the start, or else the
earliest one in the window carried back. -/
def Series.snapBase (series : Series) : Option Int :=
  series.snapBaseline.or (series.snapPoints.head?.map (·.2))

/-- `baseline_by_tp`: the peak carried into the window. -/
def Series.baseline (series : Series) (curMax : Option Int) : Option Int :=
  curMax.bind fun curMax =>
    let baseline :=
      match series.snapBase with
      | some snapBase => some snapBase
      | none =>
          match (series.points.map (·.2)).max? with
          | none => some curMax
          | some inEventTotal =>
              if inEventTotal < curMax then some curMax
              else series.preEventPeak
    match series.entryOld with
    | none => baseline
    | some entry => raise baseline entry

/-- `baseline_current_by_tp`: the current rating carried into the window. -/
def Series.baselineCurrent (series : Series) (curRating : Option Int) :
    Option Int :=
  curRating.map fun curRating =>
    (series.entryOld.or series.snapBase).getD curRating

/-- An entrant as the sweep sees it. -/
structure Entrant where
  id : Int
  name : String
  curMax : Option Int
  curRating : Option Int
  baseline : Option Int
  points : List (Instant × Int)
  snapPoints : List (Instant × Int)
deriving Repr, DecidableEq

def historySeries (db : Database) (t : Tournament) (row : RosterRow) :
    Series :=
  row.entry.profileId.elim .empty
    (seriesByProfile db t (row.rating.map (·.maxRating)))

def historyEntrant (db : Database) (t : Tournament) (row : RosterRow) :
    Entrant where
  id := row.entry.id
  name := row.entry.name
  curMax := row.rating.map (·.maxRating)
  curRating := row.rating.map (·.currentRating)
  baseline :=
    match t.rankBy with
    | .currentRating => (historySeries db t row).baselineCurrent
        (row.rating.map (·.currentRating))
    | .peakRating => (historySeries db t row).baseline
        (row.rating.map (·.maxRating))
  points := (historySeries db t row).points
  snapPoints := (historySeries db t row).snapPoints

def historyEntrants (db : Database) (t : Tournament) : List Entrant :=
  (historyRoster db t).map (historyEntrant db t)

/-- `run_cur`, `last_log_at` and `run_peak`. -/
structure LogRun where
  runCur : Option Int
  lastLogAt : Option Instant
  runPeak : Option Int
deriving Repr, DecidableEq

def LogRun.start : LogRun := ⟨none, none, none⟩

def LogRun.push (run : LogRun) (point : Instant × Int) : LogRun where
  runCur := some point.2
  lastLogAt := some point.1
  runPeak := raise run.runPeak point.2

/-- `snap_run`, `last_snap_at` and `last_snap_val`. -/
structure SnapRun where
  snapRun : Option Int
  lastSnapAt : Option Instant
  lastSnapVal : Option Int
deriving Repr, DecidableEq

def SnapRun.start : SnapRun := ⟨none, none, none⟩

def SnapRun.push (run : SnapRun) (point : Instant × Int) : SnapRun where
  snapRun := raise run.snapRun point.2
  lastSnapAt := some point.1
  lastSnapVal := some point.2

/-- An entrant, its trackers, and what its two cursors have not met yet. -/
structure Tracker where
  entrant : Entrant
  log : LogRun
  points : List (Instant × Int)
  snap : SnapRun
  snapPoints : List (Instant × Int)
deriving Repr, DecidableEq

def Entrant.tracker (entrant : Entrant) : Tracker where
  entrant := entrant
  log := .start
  points := entrant.points
  snap := .start
  snapPoints := entrant.snapPoints

/-- Both `while` loops of the sweep. -/
def Tracker.advance (time : Instant) (tracker : Tracker) : Tracker :=
  let log := advanceTo LogRun.push time tracker.log tracker.points
  let snap := advanceTo SnapRun.push time tracker.snap tracker.snapPoints
  { entrant := tracker.entrant
    log := log.1
    points := log.2
    snap := snap.1
    snapPoints := snap.2 }

/-- The rank metric of an entrant, given what was met. -/
def Entrant.metric (rankBy : RankBy) (entrant : Entrant) (log : LogRun)
    (snap : SnapRun) : Option Int :=
  match rankBy with
  | .currentRating =>
      match log.lastLogAt, snap.lastSnapAt with
      | none, none => entrant.baseline
      | none, some _ => snap.lastSnapVal
      | some _, none => log.runCur
      | some logAt, some snapAt =>
          if snapAt ≤ logAt then log.runCur else snap.lastSnapVal
  | .peakRating =>
      (entrant.baseline.toList ++ snap.snapRun.toList ++
        log.runPeak.toList).max?.map (cut entrant.curMax)

/-- The rating that breaks ties. -/
def Entrant.other (rankBy : RankBy) (entrant : Entrant) (log : LogRun) :
    Option Int :=
  match rankBy with
  | .currentRating => entrant.curMax
  | .peakRating => log.runCur.or entrant.curRating

/-- An entrant with its metric and its tie-break at one time. -/
structure Placed where
  id : Int
  name : String
  metric : Option Int
  other : Option Int
deriving Repr, DecidableEq

def Tracker.placed (rankBy : RankBy) (tracker : Tracker) : Placed where
  id := tracker.entrant.id
  name := tracker.entrant.name
  metric := tracker.entrant.metric rankBy tracker.log tracker.snap
  other := tracker.entrant.other rankBy tracker.log

/-- The keys of `player_order`. -/
def Placed.key (placed : Placed) :
    (Bool ×ₗ Int) ×ₗ (Bool ×ₗ Int) ×ₗ List Nat ×ₗ Int :=
  toLex (descNullsLast placed.metric,
    toLex (descNullsLast placed.other,
      toLex (codePoints placed.name, placed.id)))

/-- The roster as of a stop of the sweep. -/
structure Frame where
  time : Instant
  placed : List Placed
deriving Repr, DecidableEq

/-- `player_order`. -/
def Frame.playerOrder (frame : Frame) : List Int :=
  (sortBy Placed.key frame.placed).map (·.id)

/-- `metric_at`. -/
def Frame.metricAt (frame : Frame) (id : Int) : Option (Option Int) :=
  (frame.placed.find? (·.id = id)).map (·.metric)

/-- A team with its members: `members_by_team` and `team_meta`. -/
structure HistoryTeam where
  team : Team
  members : List Int
deriving Repr, DecidableEq

/-- The teams that have members. -/
def historyTeams (db : Database) (t : Tournament) : List HistoryTeam :=
  (((db.teams.rows.filter (·.tournamentId = t.id)).map fun team =>
    (⟨team, (db.teamMembers.rows.filter (·.teamId = team.id)).map
      (·.tournamentPlayerId)⟩ : HistoryTeam)).filter fun team =>
        !team.members.isEmpty)

/-- `team_combined`. -/
def Frame.teamCombined (frame : Frame) (team : HistoryTeam) : Int :=
  ((team.members.filterMap frame.metricAt).map (·.getD 0)).sum

/-- `team_order`. -/
def Frame.teamOrder (frame : Frame) (teams : List HistoryTeam) : List Int :=
  (sortBy (fun team : HistoryTeam =>
    toLex (-frame.teamCombined team, team.team.id)) teams).map (·.team.id)

/-- The positions of the entities, in the order of their ids. -/
def Frame.vector (frame : Frame) (teams : List HistoryTeam) :
    List Nat × List Nat :=
  ((sortBy id (frame.placed.map (·.id))).map (positionIn frame.playerOrder),
    (sortBy id (teams.map (·.team.id))).map
      (positionIn (frame.teamOrder teams)))

/-- The trackers advance from stop to stop. -/
def sweepFrames (rankBy : RankBy) : List Tracker → List Instant → List Frame
  | _, [] => []
  | trackers, bucketTime :: rest =>
      let trackers := trackers.map (Tracker.advance bucketTime)
      ⟨bucketTime, trackers.map (Tracker.placed rankBy)⟩ ::
        sweepFrames rankBy trackers rest

/-- The length of a day in microseconds. -/
def dayLength : Int := 86400000000

/-- The UTC day of an instant. -/
def dayOf (time : Instant) : Int := time / dayLength

/-- `in_event_times`. -/
def inEventTimes (entrants : List Entrant) : List Instant :=
  (entrants.flatMap fun entrant => entrant.points.map (·.1)) ++
    entrants.flatMap fun entrant => entrant.snapPoints.map (·.1)

/-- `start_anchor`: the start of the window, or else the first time something
was recorded. -/
def startAnchor (t : Tournament) (times : List Instant) : Option Instant :=
  t.startDate.or times.min?

/-- `daily_anchors`: each midnight from the first day to the last. -/
def dailyAnchors (start : Instant) (times : List Instant) : List Instant :=
  let endDay := dayOf (times.max?.getD start)
  let day := min (dayOf start) endDay
  (List.range ((endDay - day).toNat + 1)).map fun offset : Nat =>
    (day + offset) * dayLength

/-- `candidate_times`. -/
def candidateTimes (start : Instant) (times : List Instant) : List Instant :=
  sortBy id (dailyAnchors start times ++ times).dedup

/-- The frames that make the buckets. -/
def bucketFrames (rankBy : RankBy) (entrants : List Entrant)
    (teams : List HistoryTeam) (start : Instant) : List Frame :=
  let times := inEventTimes entrants
  record (fun frame : Frame => (dailyAnchors start times).contains frame.time)
    (fun frame => frame.vector teams) none
    (sweepFrames rankBy (entrants.map Entrant.tracker)
      (candidateTimes start times))

/-- `StandingHistoryPoint`. -/
structure StandingHistoryPoint where
  position : Nat
  peakRating : Option Int
  currentRating : Option Int
deriving Repr, DecidableEq

/-- `PlayerStandingHistory`. -/
structure PlayerStandingHistory where
  tournamentPlayerId : Int
  profileId : Option Int
  name : String
  points : List StandingHistoryPoint
deriving Repr, DecidableEq

/-- `TeamStandingHistoryPoint`. -/
structure TeamStandingHistoryPoint where
  position : Nat
  combinedPeakElo : Option Int
  combinedCurrentElo : Option Int
deriving Repr, DecidableEq

/-- `TeamStandingHistory`. -/
structure TeamStandingHistory where
  teamId : Int
  name : String
  initials : String
  points : List TeamStandingHistoryPoint
deriving Repr, DecidableEq

/-- `StandingsHistory`. -/
structure StandingsHistory where
  lastPolledAt : Option Instant
  buckets : List Instant
  players : List PlayerStandingHistory
  teams : List TeamStandingHistory
deriving Repr, DecidableEq

def StandingsHistory.empty : StandingsHistory := ⟨none, [], [], []⟩

/-- The point of an entrant in a bucket; the field follows the mode. -/
def Frame.playerPoint (rankBy : RankBy) (frame : Frame) (id : Int) :
    StandingHistoryPoint :=
  let metric := (frame.metricAt id).join
  match rankBy with
  | .currentRating => ⟨positionIn frame.playerOrder id, none, metric⟩
  | .peakRating => ⟨positionIn frame.playerOrder id, metric, none⟩

/-- The point of a team in a bucket. -/
def Frame.teamPoint (rankBy : RankBy) (teams : List HistoryTeam)
    (frame : Frame) (team : HistoryTeam) : TeamStandingHistoryPoint :=
  let position := positionIn (frame.teamOrder teams) team.team.id
  match rankBy with
  | .currentRating => ⟨position, none, some (frame.teamCombined team)⟩
  | .peakRating => ⟨position, some (frame.teamCombined team), none⟩

/-- Where the time axis starts; there is none without a roster, nor before
anything starts. -/
def historyStart (db : Database) (t : Tournament) : Option Instant :=
  if (historyRoster db t).isEmpty then none
  else startAnchor t (inEventTimes (historyEntrants db t))

def historyFrames (db : Database) (t : Tournament) (start : Instant) :
    List Frame :=
  bucketFrames t.rankBy (historyEntrants db t) (historyTeams db t) start

/-- `get_standings_history`. -/
def getStandingsHistory (db : Database) (t : Tournament) : StandingsHistory :=
  match historyStart db t with
  | none => .empty
  | some start =>
      let frames := historyFrames db t start
      { lastPolledAt := (inEventTimes (historyEntrants db t)).max?
        buckets := frames.map (·.time)
        players := sortBy (·.tournamentPlayerId)
          ((historyRoster db t).map fun row =>
            { tournamentPlayerId := row.entry.id
              profileId := row.entry.profileId
              name := resolveDisplayName row.entry.name row.entry.presentation
              points := frames.map fun frame =>
                frame.playerPoint t.rankBy row.entry.id })
        teams := sortBy (·.teamId)
          ((historyTeams db t).map fun team =>
            { teamId := team.team.id
              name := team.team.name
              initials := team.team.initials
              points := frames.map fun frame =>
                frame.teamPoint t.rankBy (historyTeams db t) team }) }

end LiveStandings
