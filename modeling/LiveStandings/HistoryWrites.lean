/-
Poller writes that come after a time of the chart.  They change nothing of what
was logged and observed by then; what they can still change is what the chart
carries back.
-/
import LiveStandings.FinalTable
import LiveStandings.HistoryEndpoint

namespace LiveStandings

open KeyedTable PyJson Ranking Sweep Highest Runs

/-- A write of one of the pollers. -/
inductive PollerWrite where
  | stats (now : Instant) (players : List Player) (ratings : List PlayerRating)
  | recent (rows : RecentRows)
  | live (rows : List Match) (links : List LiveMatchPlayer)

/-- A stored match reported again as it stands. -/
def AsStored (db : Database) (m : Match) : Prop :=
  ∃ old, db.matchTable.find? m.matchId = some old ∧
    old.leaderboardId = m.leaderboardId ∧ old.startedAt = m.startedAt ∧
      old.completedAt = m.completedAt

/-- A match that starts and completes later than `last`; a lobby stored under
its id has not completed by then. -/
structure NewMatch (last : Instant) (db : Database) (m : Match) : Prop where
  started : last < m.startedAt
  completed : ∀ completedAt ∈ m.completedAt, last < completedAt
  stored : ∀ old, db.matchTable.find? m.matchId = some old →
    ∀ completedAt ∈ old.completedAt, last < completedAt

/-- Rows about new matches; older ones are reported again as they stand. -/
structure NewRows (last : Instant) (db : Database) (rows : RecentRows) :
    Prop where
  reported : ∀ m ∈ rows.matchRows, AsStored db m ∨ NewMatch last db m
  players : ∀ row ∈ rows.players, (db.matchPlayers.find? row.key).isSome ∨
    ∃ m ∈ rows.matchRows, m.matchId = row.matchId ∧ NewMatch last db m

/-- A poller write after `last`: snapshots are observed later and follow the
live rows, no stored peak is lowered, and new matches start and complete
later. -/
inductive WriteAfter (last : Instant) :
    Database → PollerWrite → Database → Prop where
  | stats {db db' : Database} {now : Instant} {players : List Player}
      {ratings : List PlayerRating} :
      last < now →
      (∀ rating ∈ ratings, ∀ stored,
        db.playerRatings.find? rating.key = some stored →
          stored.maxRating ≤ rating.maxRating) →
      writeStats db now players ratings = .ok db' →
      WriteAfter last db (.stats now players ratings) db'
  | recent {db : Database} {rows : RecentRows} :
      NewRows last db rows →
      WriteAfter last db (.recent rows) (writeRecent db rows)
  | live {db db' : Database} {rows : List Match}
      {links : List LiveMatchPlayer} :
      (∀ row ∈ db.matchPlayers.rows,
        (db.matchTable.find? row.matchId).isSome) →
      replaceLiveMatchPlayers (rows.foldl upsertMatchFromLive db) links =
        .ok db' →
      WriteAfter last db (.live rows links) db'

/-- The games of a profile logged by a time, in table order. -/
def loggedBy (db : Database) (t : Tournament) (last : Instant)
    (profileId : Int) : List LoggedGame :=
  ((games db profileId).filterMap (loggedGame t)).filter (·.completedAt ≤ last)

/-- What the writes after `last` leave as it was. -/
structure Extends (t : Tournament) (last : Instant) (db db' : Database) :
    Prop where
  roster : db'.tournamentPlayers = db.tournamentPlayers
  teams : db'.teams = db.teams
  members : db'.teamMembers = db.teamMembers
  logged : ∀ profileId, loggedBy db' t last profileId =
    loggedBy db t last profileId
  observed : ∀ profileId, (snapshotsOf db' t profileId).filter
    (·.observedAt ≤ last) = (snapshotsOf db t profileId).filter
      (·.observedAt ≤ last)
  peaks : ∀ profileId rating, liveRating db t profileId = some rating →
    ∃ rating', liveRating db' t profileId = some rating' ∧
      rating.maxRating ≤ rating'.maxRating

section Writes

variable {db db' : Database} {t : Tournament} {last : Instant}

/-- What a match-player row contributes to the games logged by a time. -/
def loggedEntry (db : Database) (t : Tournament) (last : Instant)
    (row : MatchPlayer) : Option LoggedGame :=
  ((joinMatch db row).bind (loggedGame t)).filter (·.completedAt ≤ last)

theorem loggedBy_eq (db : Database) (t : Tournament) (last : Instant)
    (profileId : Int) :
    loggedBy db t last profileId =
      (db.matchPlayers.rows.filter (·.profileId = profileId)).filterMap
        (loggedEntry db t last) := by
  rw [loggedBy, games, List.filterMap_filterMap, List.filter_filterMap]
  rfl

theorem loggedEntry_of_later {row : MatchPlayer}
    (hlater : ∀ m, db.matchTable.find? row.matchId = some m →
      ∀ completedAt ∈ m.completedAt, last < completedAt) :
    loggedEntry db t last row = none := by
  rw [loggedEntry, Option.filter_eq_none_iff]
  intro logged hlogged
  obtain ⟨game, hgame, hlogged⟩ := Option.bind_eq_some_iff.mp hlogged
  obtain ⟨m, hm, rfl⟩ := Option.map_eq_some_iff.mp hgame
  obtain ⟨completedAt, hcompleted, hlogged⟩ :=
    Option.bind_eq_some_iff.mp hlogged
  obtain ⟨newRating, _, hlogged⟩ := Option.bind_eq_some_iff.mp hlogged
  split at hlogged
  · cases hlogged
    simpa using hlater m hm completedAt hcompleted
  · cases hlogged

/-- The columns of a match that a logged game depends on. -/
theorem loggedEntry_congr {row : MatchPlayer} {m m' : Match}
    (hm : db.matchTable.find? row.matchId = some m)
    (hm' : db'.matchTable.find? row.matchId = some m')
    (hboard : m'.leaderboardId = m.leaderboardId)
    (hstarted : m'.startedAt = m.startedAt)
    (hcompleted : m'.completedAt = m.completedAt) :
    loggedEntry db' t last row = loggedEntry db t last row := by
  have hid : m'.matchId = m.matchId :=
    (db'.matchTable.key_of_find? hm').trans
      (db.matchTable.key_of_find? hm).symm
  simp only [loggedEntry, joinMatch, hm, hm', Option.map_some,
    Option.bind_some, loggedGame, Match.played, hboard, hstarted, hcompleted,
    hid]

/-- The stored match of a row is one reported as it stands, a new one, or not
reported. -/
theorem find?_writeRecent_cases {rows : RecentRows}
    (hnew : NewRows last db rows) (matchId : Int) :
    (writeRecent db rows).matchTable.find? matchId =
        db.matchTable.find? matchId ∨
      ∃ m, (writeRecent db rows).matchTable.find? matchId = some m ∧
        m.matchId = matchId ∧ (AsStored db m ∨ NewMatch last db m) := by
  have hfind := find?_matchTable_writeRecent db rows matchId
  cases hlast : lastUnder Match.matchId matchId rows.matchRows with
  | none =>
      rw [hlast, Option.none_or] at hfind
      exact Or.inl hfind
  | some m =>
      obtain ⟨hm, hid⟩ := mem_of_lastUnder hlast
      rw [hlast, Option.some_or] at hfind
      exact Or.inr ⟨m, hfind, hid, hnew.reported m hm⟩

theorem loggedEntry_writeRecent {rows : RecentRows}
    (hnew : NewRows last db rows) (row : MatchPlayer) :
    loggedEntry (writeRecent db rows) t last row =
      loggedEntry db t last row := by
  rcases find?_writeRecent_cases hnew row.matchId with
    hsame | ⟨m, hfind, hid, ⟨old, hold, hboard, hstarted, hcompleted⟩ | hm⟩
  · simp only [loggedEntry, joinMatch, hsame]
  · rw [hid] at hold
    exact loggedEntry_congr hold hfind hboard.symm hstarted.symm
      hcompleted.symm
  · have hafter : loggedEntry (writeRecent db rows) t last row = none := by
      apply loggedEntry_of_later
      intro m' hm'
      rw [hfind] at hm'
      cases hm'
      exact hm.completed
    have hbefore : loggedEntry db t last row = none := by
      apply loggedEntry_of_later
      intro old hold
      exact hm.stored old (hid ▸ hold)
    rw [hafter, hbefore]

theorem loggedEntry_of_new {rows : RecentRows} (hnew : NewRows last db rows)
    {row : MatchPlayer} (hrow : row ∈ rows.players)
    (hfresh : db.matchPlayers.find? row.key = none) :
    loggedEntry (writeRecent db rows) t last row = none := by
  rcases hnew.players row hrow with hstored | ⟨m, _, hid, hm⟩
  · simp [hfresh] at hstored
  · rw [loggedEntry_writeRecent hnew]
    apply loggedEntry_of_later
    intro old hold
    exact hm.stored old (hid ▸ hold)

theorem loggedBy_writeRecent {rows : RecentRows}
    (hnew : NewRows last db rows) (profileId : Int) :
    loggedBy (writeRecent db rows) t last profileId =
      loggedBy db t last profileId := by
  rw [loggedBy_eq, loggedBy_eq]
  apply filterMap_writeRecent
  · intro row _ _
    exact loggedEntry_writeRecent hnew row
  · intro row hreported hkey _
    refine loggedEntry_of_new hnew hreported ?_
    rw [Table.find?_eq_none_iff]
    exact fun stored hstored heq => hkey (heq ▸ List.mem_map_of_mem hstored)

theorem WriteAfter.extends {write : PollerWrite} (t : Tournament)
    (hwrite : WriteAfter last db write db') : Extends t last db db' := by
  cases hwrite with
  | stats hlater hmono hwrite =>
      obtain ⟨table, appended, _, _, hdb'⟩ := writeStats_ok hwrite
      exact ⟨by rw [hdb'], by rw [hdb'], by rw [hdb'],
        fun _ => by rw [hdb']; rfl, snapshots_writeStats hlater hwrite,
        fun _ _ => liveRating_writeStats hmono hwrite⟩
  | recent hnew =>
      exact ⟨rfl, rfl, rfl, loggedBy_writeRecent hnew, fun _ => rfl,
        fun _ rating hlive => ⟨rating, hlive, le_refl _⟩⟩
  | live hmatches hreplace =>
      have hjoin : ∀ row ∈ db.matchPlayers.rows, joinMatch db' row =
          joinMatch db row :=
        fun row hrow => joinMatch_writeLive hreplace (hmatches row hrow)
      obtain ⟨table, rfl, _⟩ := writeLive_ok hreplace
      refine ⟨rfl, rfl, rfl, fun profileId => ?_, fun _ => rfl,
        fun _ rating hlive => ⟨rating, hlive, le_refl _⟩⟩
      rw [loggedBy_eq, loggedBy_eq]
      apply List.filterMap_congr
      intro row hrow
      rw [loggedEntry, loggedEntry, hjoin row (List.mem_of_mem_filter hrow)]

/-! What was recorded by a time, as the sweep meets it. -/

theorem upTo_points (db : Database) (t : Tournament) (profileId : Int)
    {time : Instant} (hle : time ≤ last) :
    upTo time (pointsByProfile db t profileId) =
      (sortBy (fun game : LoggedGame => toLex (game.completedAt, game.matchId))
        ((loggedBy db t last profileId).filter fun game =>
          t.inWindow game.startedAt && game.completedAt ≤ time)).map
            LoggedGame.point := by
  have hkept : ((games db profileId).filterMap (loggedGame t)).filter
      (fun game => game.completedAt ≤ time && t.inWindow game.startedAt) =
        (loggedBy db t last profileId).filter fun game =>
          t.inWindow game.startedAt && game.completedAt ≤ time := by
    rw [loggedBy, List.filter_filter]
    apply List.filter_congr
    intro game _
    by_cases hby : game.completedAt ≤ time
    · simp [hby, hby.trans hle, Bool.and_comm]
    · simp [hby]
  rw [← hkept, ← List.filter_filter, ← filter_sortBy, upTo, pointsByProfile,
    List.filter_map]
  rfl

theorem Extends.upTo_points (hext : Extends t last db db') (profileId : Int)
    {time : Instant} (hle : time ≤ last) :
    upTo time (pointsByProfile db' t profileId) =
      upTo time (pointsByProfile db t profileId) := by
  rw [LiveStandings.upTo_points db' t profileId hle,
    LiveStandings.upTo_points db t profileId hle, hext.logged]

theorem upTo_observations (db : Database) (t : Tournament) (profileId : Int)
    {time : Instant} (hle : time ≤ last) :
    upTo time (observations db t profileId) =
      (sortBy (fun snapshot : PlayerRatingSnapshot =>
        toLex (snapshot.observedAt, snapshot.id))
          (((snapshotsOf db t profileId).filter (·.observedAt ≤ last)).filter
            fun snapshot => (snapMetric t snapshot).isSome &&
              (t.endDate.all fun bound => snapshot.observedAt ≤ bound) &&
                snapshot.observedAt ≤ time)).filterMap fun snapshot =>
                  (snapMetric t snapshot).map fun value =>
                    (snapshot.observedAt, value) := by
  have hread : ((snapshotsOf db t profileId).filter fun snapshot =>
      (snapMetric t snapshot).isSome &&
        t.endDate.all fun bound => snapshot.observedAt ≤ bound).filter
          (fun snapshot => snapshot.observedAt ≤ time) =
      ((snapshotsOf db t profileId).filter (·.observedAt ≤ last)).filter
        fun snapshot => (snapMetric t snapshot).isSome &&
          (t.endDate.all fun bound => snapshot.observedAt ≤ bound) &&
            snapshot.observedAt ≤ time := by
    rw [List.filter_filter, List.filter_filter]
    apply List.filter_congr
    intro snapshot _
    by_cases hby : snapshot.observedAt ≤ time
    · simp [hby, hby.trans hle]
    · simp [hby]
  rw [← hread, ← filter_sortBy, upTo, observations, chartedSnapshots,
    List.filter_filterMap, List.filterMap_filter]
  apply List.filterMap_congr
  intro snapshot _
  cases snapMetric t snapshot with
  | none => simp
  | some value => simp [Option.filter_some]

theorem Extends.upTo_observations (hext : Extends t last db db')
    (profileId : Int) {time : Instant} (hle : time ≤ last) :
    upTo time (observations db' t profileId) =
      upTo time (observations db t profileId) := by
  rw [LiveStandings.upTo_observations db' t profileId hle,
    LiveStandings.upTo_observations db t profileId hle, hext.observed]

theorem Extends.upTo_snapPoints (hext : Extends t last db db')
    (profileId : Int) {time : Instant} (hle : time ≤ last) :
    upTo time (snapPointsByProfile db' t profileId) =
      upTo time (snapPointsByProfile db t profileId) := by
  have hcomm : ∀ db : Database,
      upTo time (snapPointsByProfile db t profileId) =
        (upTo time (observations db t profileId)).filter fun point =>
          !t.preStart point.1 := by
    intro db
    rw [upTo, upTo, snapPointsByProfile, List.filter_filter, List.filter_filter]
    apply List.filter_congr
    intro point _
    rw [Bool.and_comm]
  rw [hcomm, hcomm, hext.upTo_observations profileId hle]

end Writes

end LiveStandings
