/-
What `/standings` says about one entrant, and the stored rows it is read
from: an entrant none of whose rows changed reads the same.
-/
import LiveStandings.Standings

namespace LiveStandings

open KeyedTable PyJson Ranking

/-- The ratings, results, record and live flag of a standings row. -/
structure EntrantData where
  currentRating : Option Int
  maxRating : Option Int
  wins : Int
  losses : Int
  streak : Int
  rank : Option Int
  rankTotal : Option Int
  lastMatchAt : Option Instant
  recentResults : List MatchOutcome
  tournamentRecord : TournamentRecord
  inMatch : Bool
  liveMatchId : Option Int
deriving Repr, DecidableEq

def StandingRow.data (row : StandingRow) : EntrantData where
  currentRating := row.currentRating
  maxRating := row.maxRating
  wins := row.wins
  losses := row.losses
  streak := row.streak
  rank := row.rank
  rankTotal := row.rankTotal
  lastMatchAt := row.lastMatchAt
  recentResults := row.recentResults
  tournamentRecord := row.tournamentRecord
  inMatch := row.inMatch
  liveMatchId := row.liveMatchId

/-- What `/standings` says about an entry; `none` while it is not listed. -/
def entrantData (db : Database) (t : Tournament) (names : Dict Int String)
    (now : Instant) (entry : TournamentPlayer) : Option EntrantData :=
  ((getStandings db t names now).items.find?
    (·.tournamentPlayerId = entry.id)).map StandingRow.data

theorem mem_orderedRows {db : Database} {t : Tournament} {now : Instant}
    {row : RosterRow} : row ∈ orderedRows db t now ↔ row ∈ rosterRows db t := by
  unfold orderedRows
  cases frozenStandings db t now with
  | none => exact mem_sortBy _
  | some frozen => simp only [mem_sortBy]

theorem entry_rosterRow (db : Database) (t : Tournament)
    (entry : TournamentPlayer) : (rosterRow db t entry).entry = entry := rfl

/-- The line of an entry is its own row, if that is listed. -/
theorem entrantData_eq {db : Database} {t : Tournament}
    (names : Dict Int String) (now : Instant) {entry : TournamentPlayer}
    (hentry : entry ∈ rosterEntries db t) :
    entrantData db t names now entry =
      if (rosterRow db t entry).visible then
        some (standingRow db t names (frozenStandings db t now)
          (rosterRow db t entry)).data
      else none := by
  obtain ⟨hmem, htournament⟩ := mem_rosterEntries.mp hentry
  have hown : ∀ row ∈ orderedRows db t now,
      (standingRow db t names (frozenStandings db t now)
        row).tournamentPlayerId = entry.id → row = rosterRow db t entry := by
    intro row hrow hid
    rw [tournamentPlayerId_standingRow] at hid
    obtain ⟨entry', hmem', _, rfl, _⟩ :=
      mem_rosterRows.mp (mem_orderedRows.mp hrow)
    rw [db.tournamentPlayers.eq_of_key_eq hmem' hmem hid]
  unfold entrantData getStandings
  rw [List.find?_map]
  split
  · next hvisible =>
      have hlisted : rosterRow db t entry ∈ orderedRows db t now :=
        mem_orderedRows.mpr
          (mem_rosterRows.mpr ⟨entry, hmem, htournament, rfl, hvisible⟩)
      cases hfind : (orderedRows db t now).find? _ with
      | none =>
          have hnot := List.find?_eq_none.mp hfind _ hlisted
          simp [tournamentPlayerId_standingRow, entry_rosterRow] at hnot
      | some row =>
          have hid := List.find?_some hfind
          rw [hown row (List.mem_of_find?_eq_some hfind) (by simpa using hid)]
          rfl
  · next hhidden =>
      rw [List.find?_eq_none.mpr]
      · rfl
      · intro row hrow hid
        have hsame := hown row hrow (by simpa using hid)
        obtain ⟨_, _, _, _, hvisible⟩ :=
          mem_rosterRows.mp (mem_orderedRows.mp hrow)
        exact hhidden (hsame ▸ hvisible)

/-- The current rating a listed profile surfaces. -/
def surfacedCurrent (db : Database) (t : Tournament) (now : Instant)
    (profileId : Int) : Option Int :=
  match closedBound t now, t.rankBy with
  | some bound, .currentRating => frozenCurrent db t bound profileId
  | _, _ => (liveRating db t profileId).map (·.currentRating)

/-- The max rating a listed profile surfaces. -/
def surfacedMax (db : Database) (t : Tournament) (now : Instant)
    (profileId : Int) : Option Int :=
  match closedBound t now, t.rankBy with
  | some bound, .peakRating => frozenPeak db t bound profileId
  | _, _ => (liveRating db t profileId).map (·.maxRating)

/-- The data of a listed, linked entry. -/
theorem data_standingRow {db : Database} {t : Tournament}
    (names : Dict Int String) (now : Instant) {entry : TournamentPlayer}
    (hentry : entry ∈ rosterEntries db t) {profileId : Int}
    (hprofile : entry.profileId = some profileId)
    (hplayer : (db.players.find? profileId).isSome) :
    (standingRow db t names (frozenStandings db t now)
      (rosterRow db t entry)).data =
      { currentRating := surfacedCurrent db t now profileId
        maxRating := surfacedMax db t now profileId
        wins := ((liveRating db t profileId).map (·.wins)).getD 0
        losses := ((liveRating db t profileId).map (·.losses)).getD 0
        streak := ((liveRating db t profileId).map (·.streak)).getD 0
        rank := (liveRating db t profileId).bind (·.rank)
        rankTotal := (liveRating db t profileId).bind (·.rankTotal)
        lastMatchAt := (liveRating db t profileId).bind (·.lastMatchAt)
        recentResults := recentResultsByProfile db t.leaderboardId profileId
        tournamentRecord := tournamentRecordByProfile db t names profileId
        inMatch := (liveMatchByProfile db profileId).isSome
        liveMatchId := liveMatchByProfile db profileId } := by
  obtain ⟨player, hfind⟩ := Option.isSome_iff_exists.mp hplayer
  obtain rfl := db.players.key_of_find? hfind
  have hjoin : (rosterRow db t entry).player = some player := by
    simp [rosterRow, hprofile, hfind]
  have hrow : rosterRow db t entry ∈ rosterRows db t := by
    obtain ⟨hmem, htournament⟩ := mem_rosterEntries.mp hentry
    exact mem_rosterRows.mpr ⟨entry, hmem, htournament, rfl,
      by simp [RosterRow.visible, hjoin]⟩
  unfold StandingRow.data standingRow surfacedCurrent surfacedMax
  simp only [hjoin, rating_rosterRow hprofile hplayer]
  have hmem : player.profileId ∈
      (rosterRows db t).filterMap (·.entry.profileId) :=
    List.mem_filterMap.mpr ⟨_, hrow, hprofile⟩
  unfold frozenStandings
  rcases frozenMetricByProfile_cases db t now
    ((rosterRows db t).filterMap (·.entry.profileId)) with
    ⟨hopen, hfrozen⟩ | ⟨bound, frozen, hclosed, hfrozen, hall⟩
  · rw [hopen, hfrozen]
  · have hget := hall _ hmem
    rw [hclosed, hfrozen]
    unfold frozenMetric at hget
    cases hrank : t.rankBy with
    | currentRating =>
        rw [hrank] at hget
        simp only [hget]
    | peakRating =>
        rw [hrank] at hget
        simp only [hget]

/-- The games of a profile on a leaderboard. -/
def boardGames (db : Database) (leaderboardId profileId : Int) : List Game :=
  (games db profileId).filter (·.played.leaderboardId = some leaderboardId)

theorem decidedGames_eq (db : Database) (leaderboardId profileId : Int) :
    decidedGames db leaderboardId profileId =
      sortBy (fun game => -game.played.startedAt)
        ((boardGames db leaderboardId profileId).filter
          (·.row.outcome.isSome)) := by
  rw [decidedGames, boardGames, List.filter_filter]
  congr 2
  funext game
  exact Bool.and_comm _ _

theorem settledGames_eq_board (db : Database) (t : Tournament)
    (bound : Instant) (profileId : Int) :
    settledGames db t bound profileId =
      (boardGames db t.leaderboardId profileId).filter fun game =>
        game.row.newRating.isSome && game.played.startedAt ≤ bound := by
  rw [settledGames, boardGames, List.filter_filter]
  congr 1
  funext game
  rw [Bool.and_assoc, Bool.and_comm]

theorem mem_boardGames_of_window {db : Database} {t : Tournament}
    {profileId : Int} {game : Game} (hgame : game ∈ windowGames db t profileId) :
    game ∈ boardGames db t.leaderboardId profileId := by
  have hdecided := List.mem_of_mem_filter hgame
  rw [decidedGames_eq, mem_sortBy] at hdecided
  exact List.mem_of_mem_filter hdecided

/-- A rating row without its poll time. -/
def PlayerRating.values (rating : PlayerRating) : PlayerRating :=
  { rating with updatedAt := 0 }

/-- The rows an entrant's data is read from are the same in both databases. -/
structure SameSources (db db' : Database) (t : Tournament) (profileId : Int) :
    Prop where
  player : (db'.players.find? profileId).isSome =
    (db.players.find? profileId).isSome
  rating : (liveRating db' t profileId).map PlayerRating.values =
    (liveRating db t profileId).map PlayerRating.values
  snapshots : snapshotsOf db' t profileId = snapshotsOf db t profileId
  board : boardGames db' t.leaderboardId profileId =
    boardGames db t.leaderboardId profileId
  opponents : ∀ game ∈ boardGames db t.leaderboardId profileId,
    opponentsOf db' game = opponentsOf db game
  aliases : ∀ game ∈ boardGames db t.leaderboardId profileId,
    ∀ opponent ∈ opponentsOf db game,
      rosterLabelByProfile db t.id opponent.profileId = none →
        aliasesByProfile db' opponent.profileId =
          aliasesByProfile db opponent.profileId
  lobby : liveMatchByProfile db' profileId = liveMatchByProfile db profileId

section SameSources

variable {db db' : Database} {t : Tournament} {profileId : Int}

theorem SameSources.column (hsame : SameSources db db' t profileId)
    {A : Type} (column : PlayerRating → A)
    (hvalues : ∀ rating, column rating.values = column rating) :
    (liveRating db' t profileId).map column =
      (liveRating db t profileId).map column := by
  have hmap := congrArg (Option.map column) hsame.rating
  have hcomp : column ∘ PlayerRating.values = column := funext hvalues
  rwa [Option.map_map, Option.map_map, hcomp] at hmap

theorem SameSources.nullable (hsame : SameSources db db' t profileId)
    {A : Type} (column : PlayerRating → Option A)
    (hvalues : ∀ rating, column rating.values = column rating) :
    (liveRating db' t profileId).bind column =
      (liveRating db t profileId).bind column := by
  have hmap := hsame.column column hvalues
  cases hleft : liveRating db' t profileId with
  | none =>
      cases hright : liveRating db t profileId with
      | none => rfl
      | some rating => simp [hleft, hright] at hmap
  | some rating' =>
      cases hright : liveRating db t profileId with
      | none => simp [hleft, hright] at hmap
      | some rating => simpa [hleft, hright] using hmap

theorem SameSources.settledGames_eq (hsame : SameSources db db' t profileId)
    (bound : Instant) :
    settledGames db' t bound profileId = settledGames db t bound profileId := by
  rw [settledGames_eq_board, settledGames_eq_board, hsame.board]

theorem SameSources.surfacedCurrent_eq (hsame : SameSources db db' t profileId)
    (now : Instant) :
    surfacedCurrent db' t now profileId = surfacedCurrent db t now profileId := by
  have hlive := hsame.column (·.currentRating) fun _ => rfl
  simp only [surfacedCurrent, frozenCurrent, hsame.settledGames_eq,
    hsame.snapshots, hlive]

theorem SameSources.surfacedMax_eq (hsame : SameSources db db' t profileId)
    (now : Instant) :
    surfacedMax db' t now profileId = surfacedMax db t now profileId := by
  have hlive := hsame.column (·.maxRating) fun _ => rfl
  simp only [surfacedMax, frozenPeak, recordedPeak, hsame.settledGames_eq,
    hsame.snapshots, hlive]

theorem SameSources.decidedGames_eq (hsame : SameSources db db' t profileId) :
    decidedGames db' t.leaderboardId profileId =
      decidedGames db t.leaderboardId profileId := by
  rw [LiveStandings.decidedGames_eq, LiveStandings.decidedGames_eq, hsame.board]

theorem rosterLabelByProfile_congr
    (hroster : db'.tournamentPlayers = db.tournamentPlayers)
    (tournamentId : Int) :
    rosterLabelByProfile db' tournamentId profileId =
      rosterLabelByProfile db tournamentId profileId := by
  rw [rosterLabelByProfile, rosterLabelByProfile, hroster]

theorem SameSources.matchupOpponents_eq
    (hroster : db'.tournamentPlayers = db.tournamentPlayers)
    (hsame : SameSources db db' t profileId) (names : Dict Int String)
    {game : Game} (hgame : game ∈ boardGames db t.leaderboardId profileId) :
    matchupOpponents db' t names game = matchupOpponents db t names game := by
  unfold matchupOpponents
  rw [hsame.opponents game hgame]
  apply List.map_congr_left
  intro opponent hopponent
  rw [rosterLabelByProfile_congr hroster]
  cases hlabel : rosterLabelByProfile db t.id opponent.profileId with
  | some label => rfl
  | none => simp only [hsame.aliases game hgame opponent hopponent hlabel]

theorem SameSources.tournamentRecord_eq
    (hroster : db'.tournamentPlayers = db.tournamentPlayers)
    (hsame : SameSources db db' t profileId) (names : Dict Int String) :
    tournamentRecordByProfile db' t names profileId =
      tournamentRecordByProfile db t names profileId := by
  have hwindow : windowGames db' t profileId = windowGames db t profileId := by
    rw [windowGames, windowGames, hsame.decidedGames_eq]
  unfold tournamentRecordByProfile
  rw [hwindow]
  cases hgames : windowGames db t profileId with
  | nil => rfl
  | cons newest older =>
      have hmatchups : ((newest :: older).take recentResultsLimit).map
          (fun game => buildRecentMatchup game
            (matchupOpponents db' t names game) names) =
          ((newest :: older).take recentResultsLimit).map fun game =>
            buildRecentMatchup game (matchupOpponents db t names game) names := by
        apply List.map_congr_left
        intro game hgame
        have hboard : game ∈ boardGames db t.leaderboardId profileId :=
          mem_boardGames_of_window (hgames ▸ List.mem_of_mem_take hgame)
        rw [hsame.matchupOpponents_eq hroster names hboard]
      simp only [hmatchups]

/-- An entrant whose rows are the same reads the same. -/
theorem SameSources.entrantData_eq
    (hroster : db'.tournamentPlayers = db.tournamentPlayers)
    (hsame : SameSources db db' t profileId) (names : Dict Int String)
    (now : Instant) {entry : TournamentPlayer}
    (hentry : entry ∈ rosterEntries db t)
    (hprofile : entry.profileId = some profileId) :
    entrantData db' t names now entry = entrantData db t names now entry := by
  have hentry' : entry ∈ rosterEntries db' t := by
    rw [rosterEntries, hroster]
    exact hentry
  rw [LiveStandings.entrantData_eq names now hentry',
    LiveStandings.entrantData_eq names now hentry]
  have hvisible : ∀ db : Database, (rosterRow db t entry).visible =
      (db.players.find? profileId).isSome := by
    intro db
    simp [RosterRow.visible, rosterRow, hprofile]
  rw [hvisible, hvisible, hsame.player]
  split
  · next hplayer =>
      rw [data_standingRow names now hentry' hprofile
          (hsame.player.trans hplayer),
        data_standingRow names now hentry hprofile hplayer,
        hsame.surfacedCurrent_eq, hsame.surfacedMax_eq, recentResultsByProfile,
        recentResultsByProfile, hsame.decidedGames_eq,
        hsame.tournamentRecord_eq hroster, hsame.lobby]
      rw [hsame.column (·.wins) fun _ => rfl,
        hsame.column (·.losses) fun _ => rfl,
        hsame.column (·.streak) fun _ => rfl,
        hsame.nullable (·.rank) fun _ => rfl,
        hsame.nullable (·.rankTotal) fun _ => rfl,
        hsame.nullable (·.lastMatchAt) fun _ => rfl]
  · rfl

theorem entrantData_unlinked
    (hroster : db'.tournamentPlayers = db.tournamentPlayers)
    (names : Dict Int String) (now : Instant) {entry : TournamentPlayer}
    (hentry : entry ∈ rosterEntries db t) (hprofile : entry.profileId = none) :
    entrantData db' t names now entry = entrantData db t names now entry := by
  have hentry' : entry ∈ rosterEntries db' t := by
    rw [rosterEntries, hroster]
    exact hentry
  rw [LiveStandings.entrantData_eq names now hentry',
    LiveStandings.entrantData_eq names now hentry]
  simp [RosterRow.visible, rosterRow, hprofile, standingRow, StandingRow.data]

end SameSources

end LiveStandings
