/-
The table and the team table.  Once the window has closed the ranked rating is
read from what was recorded by its end.
-/
import LiveStandings.Records
import Mathlib.Data.List.Lex
import Mathlib.Algebra.BigOperators.Group.List.Basic
import Mathlib.Algebra.Order.Ring.Int

namespace LiveStandings

open KeyedTable PyJson Ranking

/-- The rating row of a profile on the tournament's leaderboard. -/
def liveRating (db : Database) (t : Tournament) (profileId : Int) :
    Option PlayerRating :=
  db.playerRatings.find? (profileId, t.leaderboardId)

/-- The snapshots of a profile on the tournament's leaderboard. -/
def snapshotsOf (db : Database) (t : Tournament) (profileId : Int) :
    List PlayerRatingSnapshot :=
  db.playerRatingSnapshots.rows.filter fun snapshot =>
    snapshot.profileId = profileId && snapshot.leaderboardId = t.leaderboardId

/-- A profile with a snapshot observed by `bound`. -/
def Recorded (db : Database) (t : Tournament) (bound : Instant)
    (profileId : Int) : Prop :=
  ∃ snapshot ∈ snapshotsOf db t profileId, snapshot.observedAt ≤ bound

/-- The games of a profile on the tournament's leaderboard that have settled
ratings and started by `bound`. -/
def settledGames (db : Database) (t : Tournament) (bound : Instant)
    (profileId : Int) : List Game :=
  (games db profileId).filter fun game =>
    game.played.leaderboardId = some t.leaderboardId &&
      game.row.newRating.isSome && game.played.startedAt ≤ bound

/-- The greatest of the snapshots and settled ratings recorded by `bound`. -/
def recordedPeak (db : Database) (t : Tournament) (bound : Instant)
    (profileId : Int) : Option Int :=
  let snapshots := (((snapshotsOf db t profileId).filter
    (·.observedAt ≤ bound)).map (·.maxRating)).max?
  let inFlight := ((settledGames db t bound profileId).filterMap
    (·.row.newRating)).max?
  match inFlight with
  | none => snapshots
  | some started =>
      if snapshots.all (· < started) then some started else snapshots

/-- The body of the loop of `_frozen_peak_by_profile`. -/
def frozenPeak (db : Database) (t : Tournament) (bound : Instant)
    (profileId : Int) : Option Int :=
  let liveMax := (liveRating db t profileId).map (·.maxRating)
  match recordedPeak db t bound profileId, liveMax with
  | none, liveMax => liveMax
  | some peak, none => some peak
  | some peak, some live => if live < peak then some live else some peak

/-- The body of the loop of `_frozen_current_by_profile`: the last game, else
the last observation, else the live rating. -/
def frozenCurrent (db : Database) (t : Tournament) (bound : Instant)
    (profileId : Int) : Option Int :=
  let fromLog := ((sortBy (fun game : Game =>
    toLex (game.played.startedAt, game.played.matchId))
      (settledGames db t bound profileId)).getLast?).bind (·.row.newRating)
  let fromSnapshots := ((sortBy (fun snapshot : PlayerRatingSnapshot =>
    toLex (snapshot.observedAt, snapshot.id))
      ((snapshotsOf db t profileId).filter fun snapshot =>
        snapshot.observedAt ≤ bound && snapshot.currentRating.isSome)).getLast?).bind
          (·.currentRating)
  match fromLog with
  | some current => some current
  | none =>
      match fromSnapshots with
      | some current => some current
      | none => (liveRating db t profileId).map (·.currentRating)

/-- The last game by start time decides, else the last observation, else the
live rating. -/
theorem frozenCurrent_eq_or (db : Database) (t : Tournament) (bound : Instant)
    (profileId : Int) :
    frozenCurrent db t bound profileId =
      (((sortBy (fun game : Game =>
          toLex (game.played.startedAt, game.played.matchId))
        (settledGames db t bound profileId)).getLast?).bind
          (·.row.newRating)).or
      ((((sortBy (fun snapshot : PlayerRatingSnapshot =>
          toLex (snapshot.observedAt, snapshot.id))
        ((snapshotsOf db t profileId).filter fun snapshot =>
          snapshot.observedAt ≤ bound &&
            snapshot.currentRating.isSome)).getLast?).bind
              (·.currentRating)).or
        ((liveRating db t profileId).map (·.currentRating))) := by
  rw [frozenCurrent]
  split
  · next started hstarted => rw [hstarted, Option.some_or]
  · next hstarted =>
      rw [hstarted, Option.none_or]
      split
      · next observed hobserved => rw [hobserved, Option.some_or]
      · next hobserved => rw [hobserved, Option.none_or]

/-- The bound of a window that has closed. -/
def closedBound (t : Tournament) (now : Instant) : Option Instant :=
  t.endDate.bind fun bound => if now < bound then none else some bound

theorem closedBound_eq_some_iff {t : Tournament} {now bound : Instant} :
    closedBound t now = some bound ↔ t.endDate = some bound ∧ bound ≤ now := by
  rw [closedBound]
  cases hbound : t.endDate with
  | none => simp
  | some end' =>
      rw [Option.bind_some]
      constructor
      · intro hclosed
        split at hclosed
        · cases hclosed
        · next hnot =>
            cases hclosed
            exact ⟨rfl, not_lt.mp hnot⟩
      · rintro ⟨hend, hle⟩
        cases hend
        rw [if_neg (not_lt.mpr hle)]

/-- A metric for each profile, or `None` while the window is open. -/
def frozenByProfile (metric : Instant → Int → Option Int) (t : Tournament)
    (now : Instant) (profileIds : List Int) : Option (Dict Int (Option Int)) :=
  (closedBound t now).map fun bound =>
    Dict.ofPairs (profileIds.map fun profileId =>
      (profileId, metric bound profileId))

/-- `_frozen_peak_by_profile`. -/
def frozenPeakByProfile (db : Database) (t : Tournament) (now : Instant)
    (profileIds : List Int) : Option (Dict Int (Option Int)) :=
  frozenByProfile (frozenPeak db t) t now profileIds

/-- `_frozen_current_by_profile`. -/
def frozenCurrentByProfile (db : Database) (t : Tournament) (now : Instant)
    (profileIds : List Int) : Option (Dict Int (Option Int)) :=
  frozenByProfile (frozenCurrent db t) t now profileIds

/-- `_frozen_metric_by_profile`. -/
def frozenMetricByProfile (db : Database) (t : Tournament) (now : Instant)
    (profileIds : List Int) : Option (Dict Int (Option Int)) :=
  match t.rankBy with
  | .currentRating => frozenCurrentByProfile db t now profileIds
  | .peakRating => frozenPeakByProfile db t now profileIds

/-- `StandingTeam`. -/
structure StandingTeam where
  teamId : Int
  name : String
  initials : String
deriving Repr, DecidableEq

/-- `_team_by_tournament_player`. -/
def teamByTournamentPlayer (db : Database) (t : Tournament)
    (tournamentPlayerId : Int) : Option StandingTeam :=
  ((db.teamMembers.rows.filterMap fun row =>
    if row.tournamentPlayerId = tournamentPlayerId then
      (db.teams.find? row.teamId).filter (·.tournamentId = t.id)
    else none).getLast?).map fun team => ⟨team.id, team.name, team.initials⟩

/-- A roster entry with its outer joins. -/
structure RosterRow where
  entry : TournamentPlayer
  player : Option Player
  rating : Option PlayerRating

/-- The join of the `/standings` query. -/
def rosterRow (db : Database) (t : Tournament) (entry : TournamentPlayer) :
    RosterRow :=
  let player := entry.profileId.bind db.players.find?
  ⟨entry, player, player.bind fun player => liveRating db t player.profileId⟩

theorem rating_rosterRow {db : Database} {t : Tournament}
    {entry : TournamentPlayer} {profileId : Int}
    (hprofile : entry.profileId = some profileId)
    (hplayer : (db.players.find? profileId).isSome) :
    (rosterRow db t entry).rating = liveRating db t profileId := by
  obtain ⟨player, hfind⟩ := Option.isSome_iff_exists.mp hplayer
  simp [rosterRow, hprofile, hfind, db.players.key_of_find? hfind]

/-- A linked entry is listed once its player has been polled. -/
def RosterRow.visible (row : RosterRow) : Bool :=
  row.player.isSome || row.entry.profileId.isNone

/-- The rows of the `/standings` query, not yet ordered. -/
def rosterRows (db : Database) (t : Tournament) : List RosterRow :=
  ((db.tournamentPlayers.rows.filter (·.tournamentId = t.id)).map
    (rosterRow db t)).filter RosterRow.visible

/-- Descending, nulls last. -/
def descNullsLast (value : Option Int) : Bool ×ₗ Int :=
  toLex (value.isNone, -value.getD 0)

theorem descNullsLast_injective : Function.Injective descNullsLast := by
  intro left right heq
  have hparts := Prod.mk.inj (toLex.injective heq)
  cases left <;> cases right <;> simp_all

/-- The ranked rating of a rating row. -/
def rankedRating (t : Tournament) (rating : PlayerRating) : Int :=
  match t.rankBy with
  | .currentRating => rating.currentRating
  | .peakRating => rating.maxRating

/-- The other rating, which breaks ties. -/
def otherRating (t : Tournament) (rating : PlayerRating) : Int :=
  match t.rankBy with
  | .currentRating => rating.maxRating
  | .peakRating => rating.currentRating

/-- Names compare by code point. -/
def codePoints (name : String) : List Nat :=
  name.toList.map Char.toNat

theorem codePoints_injective : Function.Injective codePoints := by
  intro left right heq
  apply String.toList_injective
  exact List.map_injective_iff.mpr (fun c d h => Char.toNat_inj.mp h) heq

/-- The keys the rows are ordered by, the metric being a given one. -/
def standingKey (t : Tournament) (metric : RosterRow → Option Int)
    (row : RosterRow) : (Bool ×ₗ Int) ×ₗ (Bool ×ₗ Int) ×ₗ List Nat :=
  toLex (descNullsLast (metric row),
    toLex (descNullsLast (row.rating.map (otherRating t)),
      codePoints row.entry.name))

/-- Of two rated rows that tie on the metric the one with the higher other
rating comes first. -/
theorem standingKey_lt_of_tie {t : Tournament}
    {metric : RosterRow → Option Int} {left right : RosterRow}
    (htie : metric left = metric right) {rating rating' : PlayerRating}
    (hleft : left.rating = some rating) (hright : right.rating = some rating')
    (hlt : otherRating t rating' < otherRating t rating) :
    standingKey t metric left < standingKey t metric right := by
  have hother : descNullsLast (some (otherRating t rating)) <
      descNullsLast (some (otherRating t rating')) :=
    Prod.Lex.toLex_lt_toLex.mpr (Or.inr ⟨rfl, neg_lt_neg hlt⟩)
  unfold standingKey
  rw [htie, hleft, hright, Option.map_some, Option.map_some]
  exact Prod.Lex.toLex_lt_toLex.mpr
    (Or.inr ⟨rfl, Prod.Lex.toLex_lt_toLex.mpr (Or.inl hother)⟩)

/-- The metric of a row: the frozen one once the window has closed. -/
def RosterRow.metric (t : Tournament)
    (frozen : Option (Dict Int (Option Int))) (row : RosterRow) : Option Int :=
  match frozen with
  | some frozen => row.entry.profileId.bind fun profileId =>
      (frozen.get? profileId).join
  | none => row.rating.map (rankedRating t)

/-- `StandingRow`. -/
structure StandingRow where
  tournamentPlayerId : Int
  profileId : Option Int
  name : String
  aliasName : String
  country : Option String
  team : Option StandingTeam
  presentation : List (String × Json)
  currentRating : Option Int
  maxRating : Option Int
  wins : Int
  losses : Int
  streak : Int
  recentResults : List MatchOutcome
  tournamentRecord : TournamentRecord
  rank : Option Int
  rankTotal : Option Int
  inMatch : Bool
  liveMatchId : Option Int
  streamLive : Bool
  streamTitle : Option String
  streamCategory : Option String
  lastMatchAt : Option Instant
  updatedAt : Option Instant
deriving Repr

/-- A row of `/standings`. -/
def standingRow (db : Database) (t : Tournament) (names : Dict Int String)
    (frozen : Option (Dict Int (Option Int))) (row : RosterRow) : StandingRow :=
  let stream := streamLiveRosterRows db row.entry.id
  match row.player with
  | some player =>
      { tournamentPlayerId := row.entry.id
        profileId := some player.profileId
        name := resolveDisplayName row.entry.name row.entry.presentation
        aliasName := player.aliasName
        country := player.country
        team := teamByTournamentPlayer db t row.entry.id
        presentation := row.entry.presentation
        currentRating :=
          match frozen, t.rankBy with
          | some frozen, .currentRating => (frozen.get? player.profileId).join
          | _, _ => row.rating.map (·.currentRating)
        maxRating :=
          match frozen, t.rankBy with
          | some frozen, .peakRating => (frozen.get? player.profileId).join
          | _, _ => row.rating.map (·.maxRating)
        wins := (row.rating.map (·.wins)).getD 0
        losses := (row.rating.map (·.losses)).getD 0
        streak := (row.rating.map (·.streak)).getD 0
        recentResults :=
          recentResultsByProfile db t.leaderboardId player.profileId
        tournamentRecord :=
          tournamentRecordByProfile db t names player.profileId
        rank := row.rating.bind (·.rank)
        rankTotal := row.rating.bind (·.rankTotal)
        inMatch := (liveMatchByProfile db player.profileId).isSome
        liveMatchId := liveMatchByProfile db player.profileId
        streamLive := stream.isSome
        streamTitle := stream.bind (·.title)
        streamCategory := stream.bind (·.category)
        lastMatchAt := row.rating.bind (·.lastMatchAt)
        updatedAt := some ((row.rating.map (·.updatedAt)).getD player.updatedAt) }
  | none =>
      { tournamentPlayerId := row.entry.id
        profileId := none
        name := resolveDisplayName row.entry.name row.entry.presentation
        aliasName := row.entry.name
        country := none
        team := teamByTournamentPlayer db t row.entry.id
        presentation := row.entry.presentation
        currentRating := none
        maxRating := none
        wins := 0
        losses := 0
        streak := 0
        recentResults := []
        tournamentRecord := .zero
        rank := none
        rankTotal := none
        inMatch := false
        liveMatchId := none
        streamLive := stream.isSome
        streamTitle := stream.bind (·.title)
        streamCategory := stream.bind (·.category)
        lastMatchAt := none
        updatedAt := none }

/-- `compute_last_polled_at`. -/
def computeLastPolledAt (timestamps : List (Option Instant)) : Option Instant :=
  (timestamps.filterMap id).max?

/-- `ListEnvelope`. -/
structure ListEnvelope (T : Type) where
  lastPolledAt : Option Instant
  items : List T

/-- The frozen metric of the listed rows. -/
def frozenStandings (db : Database) (t : Tournament) (now : Instant) :
    Option (Dict Int (Option Int)) :=
  frozenMetricByProfile db t now
    ((rosterRows db t).filterMap (·.entry.profileId))

/-- The listed rows in order: the query ranks on the live metric, and the rows
are re-ranked once the window has closed. -/
def orderedRows (db : Database) (t : Tournament) (now : Instant) :
    List RosterRow :=
  let rows := sortBy (standingKey t (RosterRow.metric t none)) (rosterRows db t)
  match frozenStandings db t now with
  | none => rows
  | some frozen => sortBy (standingKey t (RosterRow.metric t (some frozen))) rows

/-- `get_standings`. -/
def getStandings (db : Database) (t : Tournament) (names : Dict Int String)
    (now : Instant) : ListEnvelope StandingRow where
  lastPolledAt := computeLastPolledAt ((orderedRows db t now).flatMap fun row =>
    match row.player with
    | some player => [some player.updatedAt, row.rating.map (·.updatedAt)]
    | none => [])
  items := (orderedRows db t now).map
    (standingRow db t names (frozenStandings db t now))

/-- The frozen metric of one profile. -/
def frozenMetric (db : Database) (t : Tournament) (bound : Instant)
    (profileId : Int) : Option Int :=
  match t.rankBy with
  | .currentRating => frozenCurrent db t bound profileId
  | .peakRating => frozenPeak db t bound profileId

theorem frozenMetric_current {t : Tournament}
    (hrank : t.rankBy = .currentRating) (db : Database) (bound : Instant) :
    frozenMetric db t bound = frozenCurrent db t bound := by
  funext profileId
  rw [frozenMetric, hrank]

theorem frozenMetric_peak {t : Tournament} (hrank : t.rankBy = .peakRating)
    (db : Database) (bound : Instant) :
    frozenMetric db t bound = frozenPeak db t bound := by
  funext profileId
  rw [frozenMetric, hrank]

theorem frozenMetricByProfile_eq (db : Database) (t : Tournament)
    (now : Instant) (profileIds : List Int) :
    frozenMetricByProfile db t now profileIds =
      frozenByProfile (frozenMetric db t) t now profileIds := by
  unfold frozenMetricByProfile frozenMetric
  cases t.rankBy with
  | currentRating => rfl
  | peakRating => rfl

/-- The dict of frozen metrics, where there is one, has that of every
profile. -/
theorem frozenMetricByProfile_cases (db : Database) (t : Tournament)
    (now : Instant) (profileIds : List Int) :
    closedBound t now = none ∧
        frozenMetricByProfile db t now profileIds = none ∨
      ∃ bound frozen, closedBound t now = some bound ∧
        frozenMetricByProfile db t now profileIds = some frozen ∧
          ∀ profileId ∈ profileIds,
            (frozen.get? profileId).join = frozenMetric db t bound profileId := by
  rw [frozenMetricByProfile_eq, frozenByProfile]
  cases hclosed : closedBound t now with
  | none => exact Or.inl ⟨rfl, rfl⟩
  | some bound =>
      refine Or.inr ⟨bound, _, rfl, rfl, fun profileId hmem => ?_⟩
      rw [Dict.get?_ofPairs_map (frozenMetric db t bound) hmem]
      rfl

/-- What a listed row is ranked on: its live rating, or its frozen metric once
the window has closed. -/
def tableMetric (db : Database) (t : Tournament) (now : Instant)
    (row : RosterRow) : Option Int :=
  match closedBound t now with
  | none => row.rating.map (rankedRating t)
  | some bound => row.entry.profileId.bind (frozenMetric db t bound)

theorem metric_frozenStandings {db : Database} {t : Tournament}
    {now : Instant} {row : RosterRow} (hrow : row ∈ rosterRows db t) :
    row.metric t (frozenStandings db t now) = tableMetric db t now row := by
  unfold tableMetric frozenStandings
  rcases frozenMetricByProfile_cases db t now
    ((rosterRows db t).filterMap (·.entry.profileId)) with
    ⟨hopen, hfrozen⟩ | ⟨bound, frozen, hclosed, hfrozen, hget⟩
  · rw [hopen, hfrozen]
    rfl
  · rw [hclosed, hfrozen]
    cases hprofile : row.entry.profileId with
    | none => simp [RosterRow.metric, hprofile]
    | some profileId =>
        have hmem : profileId ∈
            (rosterRows db t).filterMap (·.entry.profileId) :=
          List.mem_filterMap.mpr ⟨row, hrow, hprofile⟩
        simpa [RosterRow.metric, hprofile] using hget profileId hmem

theorem mem_rosterRows {db : Database} {t : Tournament} {row : RosterRow} :
    row ∈ rosterRows db t ↔
      ∃ entry ∈ db.tournamentPlayers.rows, entry.tournamentId = t.id ∧
        row = rosterRow db t entry ∧ row.visible := by
  simp only [rosterRows, List.mem_filter, List.mem_map, decide_eq_true_eq]
  constructor
  · rintro ⟨⟨entry, ⟨hentry, htournament⟩, rfl⟩, hvisible⟩
    exact ⟨entry, hentry, htournament, rfl, hvisible⟩
  · rintro ⟨entry, hentry, htournament, rfl, hvisible⟩
    exact ⟨⟨entry, ⟨hentry, htournament⟩, rfl⟩, hvisible⟩

/-- Names are unique per tournament, so no two listed rows tie. -/
theorem standingKey_injOn {db : Database}
    (hnames : UniqueNames db.tournamentPlayers)
    {t : Tournament} (metric metric' : RosterRow → Option Int)
    {left right : RosterRow} (hleft : left ∈ rosterRows db t)
    (hright : right ∈ rosterRows db t)
    (hkey : standingKey t metric left = standingKey t metric' right) :
    left = right := by
  obtain ⟨entry, hentry, htournament, rfl, _⟩ := mem_rosterRows.mp hleft
  obtain ⟨entry', hentry', htournament', rfl, _⟩ := mem_rosterRows.mp hright
  have hname : entry.name = entry'.name :=
    codePoints_injective (congrArg (fun key => (ofLex (ofLex key).2).2) hkey)
  have hid := hnames entry hentry entry' hentry'
    (htournament.trans htournament'.symm) hname
  rw [db.tournamentPlayers.eq_of_key_eq hentry hentry' hid]

theorem orderedRows_eq {db : Database}
    (hnames : UniqueNames db.tournamentPlayers) (t : Tournament)
    (now : Instant) :
    orderedRows db t now =
      sortBy (standingKey t (tableMetric db t now)) (rosterRows db t) := by
  have hkey : ∀ row ∈ rosterRows db t,
      standingKey t (RosterRow.metric t (frozenStandings db t now)) row =
        standingKey t (tableMetric db t now) row := by
    intro row hrow
    simp only [standingKey, metric_frozenStandings hrow]
  rw [orderedRows]
  cases hfrozen : frozenStandings db t now with
  | none =>
      rw [hfrozen] at hkey
      exact sortBy_congr _ _ (List.Perm.refl _)
        (fun left hleft right hright => by
          rw [hkey left hleft, hkey right hright])
        (fun left hleft right hright =>
          standingKey_injOn hnames _ _ hleft hright)
  | some frozen =>
      rw [hfrozen] at hkey
      exact sortBy_congr _ _ (sortBy_perm _ _)
        (fun left hleft right hright => by
          rw [hkey left ((mem_sortBy _).mp hleft),
            hkey right ((mem_sortBy _).mp hright)])
        (fun left hleft right hright =>
          standingKey_injOn hnames _ _ ((mem_sortBy _).mp hleft)
            ((mem_sortBy _).mp hright))

/-- The ranked rating a row of `/standings` surfaces. -/
def StandingRow.ranked (t : Tournament) (row : StandingRow) : Option Int :=
  match t.rankBy with
  | .currentRating => row.currentRating
  | .peakRating => row.maxRating

theorem profile_of_player {db : Database} {t : Tournament} {row : RosterRow}
    (hrow : row ∈ rosterRows db t) {player : Player}
    (hplayer : row.player = some player) :
    row.entry.profileId = some player.profileId := by
  obtain ⟨entry, _, _, rfl, _⟩ := mem_rosterRows.mp hrow
  obtain ⟨profileId, hprofile, hfind⟩ := Option.bind_eq_some_iff.mp hplayer
  rw [db.players.key_of_find? hfind]
  exact hprofile

theorem unlinked_of_no_player {db : Database} {t : Tournament}
    {row : RosterRow} (hrow : row ∈ rosterRows db t)
    (hplayer : row.player = none) :
    row.entry.profileId = none ∧ row.rating = none := by
  obtain ⟨entry, _, _, rfl, hvisible⟩ := mem_rosterRows.mp hrow
  have hbind : entry.profileId.bind db.players.find? = none := hplayer
  constructor
  · simpa [RosterRow.visible, hplayer] using hvisible
  · simp [rosterRow, hbind]

theorem ranked_standingRow {db : Database} {t : Tournament}
    (names : Dict Int String) {now : Instant} {row : RosterRow}
    (hrow : row ∈ rosterRows db t) :
    (standingRow db t names (frozenStandings db t now) row).ranked t =
      tableMetric db t now row := by
  rw [← metric_frozenStandings hrow]
  cases hplayer : row.player with
  | none =>
      obtain ⟨hunlinked, hunrated⟩ := unlinked_of_no_player hrow hplayer
      unfold StandingRow.ranked standingRow RosterRow.metric
      rw [hplayer, hunlinked, hunrated]
      cases t.rankBy <;> cases frozenStandings db t now <;> rfl
  | some player =>
      unfold StandingRow.ranked standingRow RosterRow.metric rankedRating
      rw [hplayer, profile_of_player hrow hplayer]
      cases t.rankBy <;> cases frozenStandings db t now <;> rfl

/-- The entries of a tournament's roster. -/
def rosterEntries (db : Database) (t : Tournament) : List TournamentPlayer :=
  db.tournamentPlayers.rows.filter (·.tournamentId = t.id)

theorem mem_rosterEntries {db : Database} {t : Tournament}
    {entry : TournamentPlayer} :
    entry ∈ rosterEntries db t ↔
      entry ∈ db.tournamentPlayers.rows ∧ entry.tournamentId = t.id := by
  simp [rosterEntries]

/-- A linked entry of the tournament's roster. -/
structure Linked (db : Database) (t : Tournament) (entry : TournamentPlayer)
    (profileId : Int) : Prop where
  mem : entry ∈ db.tournamentPlayers.rows
  tournament : entry.tournamentId = t.id
  profile : entry.profileId = some profileId

theorem nodup_rosterEntries (db : Database) (t : Tournament) :
    ((rosterEntries db t).map (·.id)).Nodup :=
  (List.filter_sublist.map _).nodup db.tournamentPlayers.keys_nodup

/-- Entry, rank and ranked rating: what the table says, line by line. -/
def tableLines (db : Database) (t : Tournament) (names : Dict Int String)
    (now : Instant) : List (Int × Option Int) :=
  (getStandings db t names now).items.map fun row =>
    (row.tournamentPlayerId, row.ranked t)

theorem tournamentPlayerId_standingRow (db : Database) (t : Tournament)
    (names : Dict Int String) (frozen : Option (Dict Int (Option Int)))
    (row : RosterRow) :
    (standingRow db t names frozen row).tournamentPlayerId = row.entry.id := by
  rw [standingRow]
  cases row.player <;> rfl

/-- The table, line by line, is the listed rows in order with their metrics. -/
theorem tableLines_rows {db : Database}
    (hnames : UniqueNames db.tournamentPlayers) (t : Tournament)
    (names : Dict Int String) (now : Instant) :
    tableLines db t names now =
      (orderedRows db t now).map fun row =>
        (row.entry.id, tableMetric db t now row) := by
  unfold tableLines getStandings
  rw [List.map_map]
  apply List.map_congr_left
  intro row hrow
  have hlisted : row ∈ rosterRows db t := by
    rw [orderedRows_eq hnames] at hrow
    exact (mem_sortBy _).mp hrow
  rw [Function.comp, ranked_standingRow names hlisted,
    tournamentPlayerId_standingRow]

/-- The table when every entry is listed: the roster, ranked on the metric in
force. -/
theorem tableLines_eq {db : Database}
    (hnames : UniqueNames db.tournamentPlayers) (t : Tournament)
    (names : Dict Int String) (now : Instant)
    (hvisible : ∀ entry ∈ rosterEntries db t, (rosterRow db t entry).visible) :
    tableLines db t names now =
      (sortBy (fun entry => standingKey t (tableMetric db t now)
        (rosterRow db t entry)) (rosterEntries db t)).map fun entry =>
          (entry.id, tableMetric db t now (rosterRow db t entry)) := by
  have hrows : rosterRows db t =
      (rosterEntries db t).map (rosterRow db t) := by
    apply List.filter_eq_self.mpr
    intro row hrow
    obtain ⟨entry, hentry, rfl⟩ := List.mem_map.mp hrow
    exact hvisible entry hentry
  have hordered : orderedRows db t now =
      (sortBy (fun entry => standingKey t (tableMetric db t now)
        (rosterRow db t entry)) (rosterEntries db t)).map (rosterRow db t) := by
    rw [orderedRows_eq hnames, hrows, sortBy_map]
  rw [tableLines_rows hnames, hordered, List.map_map]
  rfl

/-- `TeamMemberRead`. -/
structure TeamMemberRead where
  tournamentPlayerId : Int
  profileId : Option Int
  aliasName : String
  country : Option String
  currentRating : Option Int
  maxRating : Option Int
  inMatch : Bool
  liveMatchId : Option Int
  isCaptain : Bool
  wins : Nat
  losses : Nat
deriving Repr, DecidableEq

/-- A row of the team-member query. -/
structure MemberRow where
  member : TeamMember
  entry : TournamentPlayer
  player : Option Player
  rating : Option PlayerRating

/-- The rows of the team-member query. -/
def memberRows (db : Database) (t : Tournament) : List MemberRow :=
  db.teamMembers.rows.filterMap fun member => do
    let team ← db.teams.find? member.teamId
    let entry ← db.tournamentPlayers.find? member.tournamentPlayerId
    if team.tournamentId = t.id then
      some ⟨member, entry, entry.profileId.bind db.players.find?,
        entry.profileId.bind (liveRating db t)⟩
    else none

/-- The frozen metric of the team members. -/
def frozenMembers (db : Database) (t : Tournament) (now : Instant) :
    Option (Dict Int (Option Int)) :=
  frozenMetricByProfile db t now
    ((memberRows db t).filterMap (·.entry.profileId))

/-- The member of a row, its ranked rating the frozen one once the window has
closed. -/
def teamMemberRead (db : Database) (t : Tournament) (names : Dict Int String)
    (frozen : Option (Dict Int (Option Int))) (row : MemberRow) :
    TeamMemberRead :=
  let live := row.entry.profileId.bind (liveMatchByProfile db)
  let record := (row.entry.profileId.map
    (tournamentRecordByProfile db t names)).getD .zero
  { tournamentPlayerId := row.entry.id
    profileId := row.entry.profileId
    aliasName := (row.player.map (·.aliasName)).getD row.entry.name
    country := row.player.bind (·.country)
    currentRating :=
      match frozen, t.rankBy with
      | some frozen, .currentRating =>
          row.entry.profileId.bind fun profileId => (frozen.get? profileId).join
      | _, _ => row.rating.map (·.currentRating)
    maxRating :=
      match frozen, t.rankBy with
      | some frozen, .peakRating =>
          row.entry.profileId.bind fun profileId => (frozen.get? profileId).join
      | _, _ => row.rating.map (·.maxRating)
    inMatch := live.isSome
    -- `if profile_id` is false for profile 0 as well
    liveMatchId :=
      if row.entry.profileId.all (· = 0) then none else live
    isCaptain := row.member.isCaptain
    wins := record.wins
    losses := record.losses }

/-- `member_metric`. -/
def memberMetric (t : Tournament) (member : TeamMemberRead) : Option Int :=
  match t.rankBy with
  | .currentRating => member.currentRating
  | .peakRating => member.maxRating

/-- `TeamStandingRow`, without its average and its civ aggregate. -/
structure TeamStandingRow where
  teamId : Int
  name : String
  initials : String
  memberCount : Nat
  combinedRatingSum : Int
  combinedWins : Nat
  combinedLosses : Nat
  members : List TeamMemberRead
deriving Repr, DecidableEq

/-- A row of `/teams/standings`. -/
def teamStandingRow (db : Database) (t : Tournament) (names : Dict Int String)
    (now : Instant) (team : Team) : TeamStandingRow :=
  let members := sortBy (fun member => descNullsLast (memberMetric t member))
    (((memberRows db t).filter (·.member.teamId = team.id)).map
      (teamMemberRead db t names (frozenMembers db t now)))
  { teamId := team.id
    name := team.name
    initials := team.initials
    memberCount := members.length
    combinedRatingSum := (members.filterMap (memberMetric t)).sum
    combinedWins := (members.map (·.wins)).sum
    combinedLosses := (members.map (·.losses)).sum
    members := members }

/-- `get_team_standings`. -/
def getTeamStandings (db : Database) (t : Tournament) (names : Dict Int String)
    (now : Instant) : ListEnvelope TeamStandingRow where
  lastPolledAt := computeLastPolledAt ((memberRows db t).map fun row =>
    row.rating.map (·.updatedAt))
  items := sortBy (fun row => -row.combinedRatingSum)
    ((db.teams.rows.filter (·.tournamentId = t.id)).map
      (teamStandingRow db t names now))

/-- What a team member counts for. -/
def memberRowMetric (db : Database) (t : Tournament) (now : Instant)
    (row : MemberRow) : Option Int :=
  match closedBound t now with
  | none => row.rating.map (rankedRating t)
  | some bound => row.entry.profileId.bind (frozenMetric db t bound)

theorem memberMetric_teamMemberRead {db : Database} {t : Tournament}
    (names : Dict Int String) {now : Instant} {row : MemberRow}
    (hrow : row ∈ memberRows db t) :
    memberMetric t (teamMemberRead db t names (frozenMembers db t now) row) =
      memberRowMetric db t now row := by
  unfold memberRowMetric frozenMembers memberMetric teamMemberRead
  rcases frozenMetricByProfile_cases db t now
    ((memberRows db t).filterMap (·.entry.profileId)) with
    ⟨hopen, hfrozen⟩ | ⟨bound, frozen, hclosed, hfrozen, hget⟩
  · rw [hopen, hfrozen]
    unfold rankedRating
    cases t.rankBy <;> rfl
  · rw [hclosed, hfrozen]
    cases hprofile : row.entry.profileId with
    | none => cases t.rankBy <;> simp
    | some profileId =>
        have hmem : profileId ∈
            (memberRows db t).filterMap (·.entry.profileId) :=
          List.mem_filterMap.mpr ⟨row, hrow, hprofile⟩
        cases hrank : t.rankBy <;>
          simpa [hprofile, hrank] using hget profileId hmem

/-- A team's combined rating is the sum over its members, in any order. -/
theorem combinedRatingSum_eq (db : Database) (t : Tournament)
    (names : Dict Int String) (now : Instant) (team : Team) :
    (teamStandingRow db t names now team).combinedRatingSum =
      (((memberRows db t).filter (·.member.teamId = team.id)).filterMap
        (memberRowMetric db t now)).sum := by
  have hmetric : ((memberRows db t).filter
      (·.member.teamId = team.id)).filterMap (memberRowMetric db t now) =
      (((memberRows db t).filter (·.member.teamId = team.id)).map
        (teamMemberRead db t names (frozenMembers db t now))).filterMap
          (memberMetric t) := by
    rw [List.filterMap_map]
    apply List.filterMap_congr
    intro row hrow
    exact (memberMetric_teamMemberRead names (List.mem_of_mem_filter hrow)).symm
  rw [hmetric]
  exact ((sortBy_perm _ _).filterMap _).sum_eq

/-- Team and combined rating: what the team table says, line by line. -/
def teamLines (db : Database) (t : Tournament) (names : Dict Int String)
    (now : Instant) : List (Int × Int) :=
  (getTeamStandings db t names now).items.map fun row =>
    (row.teamId, row.combinedRatingSum)

/-- The entries of the teams' members. -/
def memberEntries (db : Database) (t : Tournament) :
    List (TeamMember × TournamentPlayer) :=
  (memberRows db t).map fun row => (row.member, row.entry)

/-- The member query reads its entries from the roster and the teams alone. -/
theorem memberEntries_congr {db db' : Database} (t : Tournament)
    (hroster : db'.tournamentPlayers = db.tournamentPlayers)
    (hteams : db'.teams = db.teams) (hmembers : db'.teamMembers = db.teamMembers) :
    memberEntries db' t = memberEntries db t := by
  simp only [memberEntries, memberRows, List.map_filterMap, hroster, hteams,
    hmembers]
  apply List.filterMap_congr
  intro member _
  cases db.teams.find? member.teamId with
  | none => rfl
  | some team =>
      cases db.tournamentPlayers.find? member.tournamentPlayerId with
      | none => rfl
      | some entry =>
          simp only [Option.bind_eq_bind, Option.bind_some]
          split <;> rfl

/-- After the window a team's members count with their frozen metrics. -/
theorem memberMetrics_closed {db : Database} {t : Tournament}
    {now bound : Instant} (hclosed : closedBound t now = some bound)
    (teamId : Int) :
    ((memberRows db t).filter (·.member.teamId = teamId)).filterMap
        (memberRowMetric db t now) =
      ((memberEntries db t).filter (·.1.teamId = teamId)).filterMap
        fun pair => pair.2.profileId.bind (frozenMetric db t bound) := by
  rw [memberEntries, List.filter_map, List.filterMap_map]
  apply List.filterMap_congr
  intro row _
  rw [memberRowMetric, hclosed]
  rfl

theorem mem_memberEntries {db : Database} {t : Tournament} {member : TeamMember}
    {entry : TournamentPlayer} :
    (member, entry) ∈ memberEntries db t ↔
      member ∈ db.teamMembers.rows ∧
        db.tournamentPlayers.find? member.tournamentPlayerId = some entry ∧
          ∃ team, db.teams.find? member.teamId = some team ∧
            team.tournamentId = t.id := by
  simp only [memberEntries, memberRows, List.mem_map, List.mem_filterMap]
  constructor
  · rintro ⟨row, ⟨member', hmember, hrow⟩, heq⟩
    obtain ⟨team, hteam, hrow⟩ := Option.bind_eq_some_iff.mp hrow
    obtain ⟨entry', hentry, hrow⟩ := Option.bind_eq_some_iff.mp hrow
    split at hrow
    · next htournament =>
        cases hrow
        cases heq
        exact ⟨hmember, hentry, team, hteam, htournament⟩
    · cases hrow
  · rintro ⟨hmember, hentry, team, hteam, htournament⟩
    refine ⟨⟨member, entry, entry.profileId.bind db.players.find?,
      entry.profileId.bind (liveRating db t)⟩, ⟨member, hmember, ?_⟩, rfl⟩
    simp only [Option.bind_eq_bind, hteam, hentry, Option.bind_some,
      htournament, ↓reduceIte]

theorem teamLines_eq (db : Database) (t : Tournament)
    (names : Dict Int String) (now : Instant) :
    teamLines db t names now =
      (sortBy (fun team : Team => -(((memberRows db t).filter
        (·.member.teamId = team.id)).filterMap (memberRowMetric db t now)).sum)
          (db.teams.rows.filter (·.tournamentId = t.id))).map fun team =>
            (team.id, (((memberRows db t).filter
              (·.member.teamId = team.id)).filterMap
                (memberRowMetric db t now)).sum) := by
  simp only [teamLines, getTeamStandings, sortBy_map, List.map_map,
    combinedRatingSum_eq]
  apply List.map_congr_left
  intro team _
  simp only [Function.comp, combinedRatingSum_eq]
  rfl

/-! Rows with the defaults of the test factories. -/

namespace Factory

def makePlayer (profileId : Int) : Player where
  profileId := profileId
  aliasName := "player"
  country := some "ca"
  steamId := none
  level := 1
  xp := 0
  regionId := 0
  clanName := none
  updatedAt := 0

def makePlayerRating (profileId currentRating maxRating : Int) :
    PlayerRating where
  profileId := profileId
  leaderboardId := 3
  currentRating := currentRating
  maxRating := maxRating
  wins := 0
  losses := 0
  streak := 0
  drops := 0
  rank := none
  rankTotal := none
  regionRank := none
  regionRankTotal := none
  lastMatchAt := none
  updatedAt := 0

def makePlayerRatingSnapshot (id profileId currentRating maxRating : Int)
    (observedAt : Instant) : PlayerRatingSnapshot where
  id := id
  profileId := profileId
  leaderboardId := 3
  maxRating := maxRating
  currentRating := some currentRating
  observedAt := observedAt

def makeMatch (matchId : Int) (startedAt completedAt : Instant) : Match where
  matchId := matchId
  mapName := "Arabia.rms"
  matchtypeId := 6
  leaderboardId := some 3
  startedAt := startedAt
  completedAt := some completedAt
  description := none
  state := .completed
  updatedAt := 0

def makeMatchPlayer (matchId profileId oldRating newRating : Int) :
    MatchPlayer where
  matchId := matchId
  profileId := profileId
  civilizationId := 0
  teamId := 0
  outcome := some .win
  oldRating := some oldRating
  newRating := some newRating
  xpGained := 1

def makeTournament (rankBy : RankBy) (startDate endDate : Option Instant) :
    Tournament where
  id := 1
  slug := "cup"
  name := "Tournament cup"
  leaderboardId := 3
  rankBy := rankBy
  startDate := startDate
  endDate := endDate
  prizePoolCents := none
  hostStreamUrls := []
  presentation := []
  createdAt := 0

/-- A linked roster entry of that tournament. -/
def makeEntry (profileId : Int) (name : String) : TournamentPlayer where
  id := profileId
  tournamentId := 1
  profileId := some profileId
  name := name
  presentation := []

/-- Two linked entrants with their polled records. -/
def seed (ratings : List PlayerRating) (snapshots : List PlayerRatingSnapshot)
    (finished : List Match) (players : List MatchPlayer) : Database :=
  { Database.empty with
    players := Table.empty.insertAll [makePlayer 1, makePlayer 2]
    tournamentPlayers :=
      Table.empty.insertAll [makeEntry 1 "p1", makeEntry 2 "p2"]
    playerRatings := Table.empty.insertAll ratings
    playerRatingSnapshots := Table.empty.insertAll snapshots
    matchTable := Table.empty.insertAll finished
    matchPlayers := Table.empty.insertAll players }

end Factory

end LiveStandings
