/-
The final table.  Once the window has closed the peak of an entrant is what
was recorded by its end, cut at the live peak; ties are broken by the live
current rating.  Both of these keep moving.
-/
import LiveStandings.Pollers
import LiveStandings.Standings
import LiveStandings.Library.Runs

namespace LiveStandings

open KeyedTable PyJson Ranking Runs

/-- The writes that follow the end of the window. -/
inductive LaterWrite where
  | stats (now : Instant) (players : List Player) (ratings : List PlayerRating)
  | recent (rows : RecentRows)

/-- Rows about matches that started after `bound`; a match stored with an
earlier start has no players yet. -/
structure LateRows (bound : Instant) (db : Database) (rows : RecentRows) :
    Prop where
  started : ∀ m ∈ rows.matchRows, bound < m.startedAt
  stored : ∀ m ∈ rows.matchRows, ∀ old,
    db.matchTable.find? m.matchId = some old → old.startedAt ≤ bound →
      ∀ row ∈ db.matchPlayers.rows, row.matchId ≠ m.matchId
  players : ∀ row ∈ rows.players, ∃ m ∈ rows.matchRows,
    m.matchId = row.matchId

/-- A poller write after the window: snapshots are observed later than
`bound`, no stored peak is lowered, and matches started later. -/
inductive PostWindow (bound : Instant) :
    Database → LaterWrite → Database → Prop where
  | stats {db db' : Database} {now : Instant} {players : List Player}
      {ratings : List PlayerRating} :
      bound < now →
      (∀ rating ∈ ratings, ∀ stored,
        db.playerRatings.find? rating.key = some stored →
          stored.maxRating ≤ rating.maxRating) →
      writeStats db now players ratings = .ok db' →
      PostWindow bound db (.stats now players ratings) db'
  | recent {db : Database} {rows : RecentRows} :
      LateRows bound db rows →
      PostWindow bound db (.recent rows) (writeRecent db rows)

section Recorded

variable {db db' : Database} {t : Tournament} {bound : Instant}

/-- What a match-player row contributes to the settled games. -/
def settledEntry (db : Database) (t : Tournament) (bound : Instant)
    (row : MatchPlayer) : Option Game :=
  (joinMatch db row).filter fun game =>
    game.played.leaderboardId = some t.leaderboardId &&
      game.row.newRating.isSome && game.played.startedAt ≤ bound

theorem settledGames_eq (profileId : Int) :
    settledGames db t bound profileId =
      (db.matchPlayers.rows.filter (·.profileId = profileId)).filterMap
        (settledEntry db t bound) := by
  rw [settledGames, games, List.filter_filterMap]
  rfl

theorem settledEntry_of_late {row : MatchPlayer} {m : Match}
    (hfind : db.matchTable.find? row.matchId = some m)
    (hlate : bound < m.startedAt) : settledEntry db t bound row = none := by
  simp [settledEntry, joinMatch, Match.played, hfind, hlate]

theorem settledEntry_writeRecent {rows : RecentRows}
    (hlate : LateRows bound db rows) {row : MatchPlayer}
    (hrow : row ∈ db.matchPlayers.rows) :
    settledEntry (writeRecent db rows) t bound row =
      settledEntry db t bound row := by
  have hfind := find?_matchTable_writeRecent db rows row.matchId
  cases hlast : lastUnder Match.matchId row.matchId rows.matchRows with
  | none =>
      rw [hlast, Option.none_or] at hfind
      rw [settledEntry, settledEntry, joinMatch, joinMatch, hfind]
  | some m =>
      obtain ⟨hm, hid⟩ := mem_of_lastUnder hlast
      rw [hlast, Option.some_or] at hfind
      rw [settledEntry_of_late hfind (hlate.started m hm)]
      cases hstored : db.matchTable.find? row.matchId with
      | none => simp [settledEntry, joinMatch, hstored]
      | some old =>
          by_cases hearly : old.startedAt ≤ bound
          · exact absurd hid.symm
              (hlate.stored m hm old (hid ▸ hstored) hearly row hrow)
          · exact (settledEntry_of_late hstored (not_le.mp hearly)).symm

theorem settledGames_writeRecent {rows : RecentRows}
    (hlate : LateRows bound db rows) (profileId : Int) :
    settledGames (writeRecent db rows) t bound profileId =
      settledGames db t bound profileId := by
  rw [settledGames_eq, settledGames_eq]
  apply filterMap_writeRecent
  · intro row hrow _
    exact settledEntry_writeRecent hlate hrow
  · intro row hreported _ _
    obtain ⟨m, hm, hid⟩ := hlate.players row hreported
    have hfind := find?_matchTable_writeRecent db rows row.matchId
    cases hlast : lastUnder Match.matchId row.matchId rows.matchRows with
    | none => exact absurd hid (lastUnder_eq_none_iff.mp hlast m hm)
    | some last =>
        rw [hlast, Option.some_or] at hfind
        exact settledEntry_of_late hfind
          (hlate.started last (mem_of_lastUnder hlast).1)

/-- Snapshots observed later are not among those observed by `bound`. -/
theorem snapshots_writeStats {now : Instant} {players : List Player}
    {ratings : List PlayerRating} (hnow : bound < now)
    (hwrite : writeStats db now players ratings = .ok db') (profileId : Int) :
    (snapshotsOf db' t profileId).filter (·.observedAt ≤ bound) =
      (snapshotsOf db t profileId).filter (·.observedAt ≤ bound) := by
  obtain ⟨table, appended, hrows, hobserved, rfl⟩ := writeStats_ok hwrite
  have hnew : (appended.filter fun snapshot =>
      snapshot.profileId = profileId &&
        snapshot.leaderboardId = t.leaderboardId).filter
          (·.observedAt ≤ bound) = [] := by
    rw [List.filter_eq_nil_iff]
    intro snapshot hmem
    have hstamp := (hobserved snapshot (List.mem_of_mem_filter hmem)).1
    simpa [hstamp] using hnow
  rw [snapshotsOf, snapshotsOf, hrows, List.filter_append, List.filter_append,
    hnew, List.append_nil]

theorem recordedPeak_postWindow {write : LaterWrite}
    (hstep : PostWindow bound db write db') (profileId : Int) :
    recordedPeak db' t bound profileId = recordedPeak db t bound profileId := by
  cases hstep with
  | stats hnow hmono hwrite =>
      have hgames : settledGames db' t bound profileId =
          settledGames db t bound profileId := by
        obtain ⟨table, appended, _, _, rfl⟩ := writeStats_ok hwrite
        rfl
      rw [recordedPeak, recordedPeak, snapshots_writeStats hnow hwrite, hgames]
  | recent hlate =>
      rw [recordedPeak, recordedPeak, settledGames_writeRecent hlate]
      rfl

/-- A stats write that lowers no stored peak keeps rated profiles rated. -/
theorem liveRating_writeStats {now : Instant} {players : List Player}
    {ratings : List PlayerRating}
    (hmono : ∀ rating ∈ ratings, ∀ stored,
      db.playerRatings.find? rating.key = some stored →
        stored.maxRating ≤ rating.maxRating)
    (hwrite : writeStats db now players ratings = .ok db') {profileId : Int}
    {rating : PlayerRating} (hlive : liveRating db t profileId = some rating) :
    ∃ rating', liveRating db' t profileId = some rating' ∧
      rating.maxRating ≤ rating'.maxRating := by
  obtain ⟨table, appended, _, _, rfl⟩ := writeStats_ok hwrite
  have hfind := db.playerRatings.find?_overwriteAll ratings
    (profileId, t.leaderboardId)
  cases hlast : lastUnder PlayerRating.key (profileId, t.leaderboardId)
      ratings with
  | none =>
      rw [hlast, Option.none_or] at hfind
      exact ⟨rating, hfind.trans hlive, le_refl _⟩
  | some last =>
      rw [hlast, Option.some_or] at hfind
      obtain ⟨hmem, hkey⟩ := mem_of_lastUnder hlast
      exact ⟨last, hfind, hmono last hmem rating (hkey ▸ hlive)⟩

theorem liveRating_postWindow {write : LaterWrite}
    (hstep : PostWindow bound db write db') {profileId : Int}
    {rating : PlayerRating} (hlive : liveRating db t profileId = some rating) :
    ∃ rating', liveRating db' t profileId = some rating' ∧
      rating.maxRating ≤ rating'.maxRating := by
  cases hstep with
  | stats hnow hmono hwrite => exact liveRating_writeStats hmono hwrite hlive
  | recent hlate => exact ⟨rating, hlive, le_refl _⟩

theorem recordedPeak_isSome {profileId : Int}
    (hrecorded : Recorded db t bound profileId) :
    ∃ peak, recordedPeak db t bound profileId = some peak := by
  obtain ⟨snapshot, hmem, hobserved⟩ := hrecorded
  have hnonempty : ((snapshotsOf db t profileId).filter
      (·.observedAt ≤ bound)).map (·.maxRating) ≠ [] := by
    have hkept : snapshot ∈ (snapshotsOf db t profileId).filter
        (·.observedAt ≤ bound) :=
      List.mem_filter.mpr ⟨hmem, by simpa using hobserved⟩
    exact List.ne_nil_of_mem (List.mem_map_of_mem hkept)
  obtain ⟨peak, hpeak⟩ := Option.isSome_iff_exists.mp
    (List.isSome_max?_of_ne_nil hnonempty)
  unfold recordedPeak
  simp only [hpeak]
  cases ((settledGames db t bound profileId).filterMap (·.row.newRating)).max? with
  | none => exact ⟨peak, rfl⟩
  | some started =>
      simp only
      split
      · exact ⟨started, rfl⟩
      · exact ⟨peak, rfl⟩

/-- A live peak that covers what was recorded. -/
def Covered (db : Database) (t : Tournament) (bound : Instant)
    (profileId : Int) : Prop :=
  ∃ rating, liveRating db t profileId = some rating ∧
    ∀ peak, recordedPeak db t bound profileId = some peak →
      peak ≤ rating.maxRating

/-- Where the live peak covers it, the frozen peak is the recorded one. -/
theorem frozenPeak_of_covered {profileId peak : Int}
    (hcovered : Covered db t bound profileId)
    (hpeak : recordedPeak db t bound profileId = some peak) :
    frozenPeak db t bound profileId = some peak := by
  obtain ⟨rating, hlive, hle⟩ := hcovered
  have hnot : ¬rating.maxRating < peak := not_lt.mpr (hle peak hpeak)
  simp [frozenPeak, hpeak, hlive, hnot]

theorem frozenPeak_eq_recordedPeak {profileId : Int}
    (hcovered : Covered db t bound profileId)
    (hrecorded : Recorded db t bound profileId) :
    frozenPeak db t bound profileId = recordedPeak db t bound profileId := by
  obtain ⟨peak, hpeak⟩ := recordedPeak_isSome hrecorded
  rw [frozenPeak_of_covered hcovered hpeak, hpeak]

/-- What the writes after the window leave alone, compared with `db`. -/
structure Settled (t : Tournament) (bound : Instant) (db db' : Database) :
    Prop where
  roster : db'.tournamentPlayers = db.tournamentPlayers
  teams : db'.teams = db.teams
  members : db'.teamMembers = db.teamMembers
  players : ∀ profileId, (db.players.find? profileId).isSome →
    (db'.players.find? profileId).isSome
  peaks : ∀ profileId,
    recordedPeak db' t bound profileId = recordedPeak db t bound profileId
  live : ∀ profileId rating, liveRating db t profileId = some rating →
    ∃ rating', liveRating db' t profileId = some rating' ∧
      rating.maxRating ≤ rating'.maxRating

theorem Settled.refl (t : Tournament) (bound : Instant) (db : Database) :
    Settled t bound db db :=
  ⟨rfl, rfl, rfl, fun _ h => h, fun _ => rfl, fun _ rating h =>
    ⟨rating, h, le_refl _⟩⟩

theorem Settled.step {db'' : Database} {write : LaterWrite}
    (hsettled : Settled t bound db db')
    (hstep : PostWindow bound db' write db'') : Settled t bound db db'' := by
  have hframe : db''.tournamentPlayers = db'.tournamentPlayers ∧
      db''.teams = db'.teams ∧ db''.teamMembers = db'.teamMembers ∧
      ∀ profileId, (db'.players.find? profileId).isSome →
        (db''.players.find? profileId).isSome := by
    cases hstep with
    | stats hnow hmono hwrite =>
        obtain ⟨table, appended, _, _, rfl⟩ := writeStats_ok hwrite
        refine ⟨rfl, rfl, rfl, fun profileId hfound => ?_⟩
        simp only [Table.find?_overwriteAll]
        cases lastUnder Player.profileId profileId _ with
        | none => exact hfound
        | some last => rfl
    | recent hlate => exact ⟨rfl, rfl, rfl, fun _ h => h⟩
  obtain ⟨hroster, hteams, hmembers, hplayers⟩ := hframe
  refine ⟨hroster.trans hsettled.roster, hteams.trans hsettled.teams,
    hmembers.trans hsettled.members,
    fun profileId h => hplayers profileId (hsettled.players profileId h),
    fun profileId => (recordedPeak_postWindow hstep profileId).trans
      (hsettled.peaks profileId), ?_⟩
  intro profileId rating hlive
  obtain ⟨rating', hlive', hle⟩ := hsettled.live profileId rating hlive
  obtain ⟨rating'', hlive'', hle'⟩ := liveRating_postWindow hstep hlive'
  exact ⟨rating'', hlive'', hle.trans hle'⟩

theorem Settled.of_run {writes : List LaterWrite}
    (hrun : Run (PostWindow bound) db writes db') :
    Settled t bound db db' :=
  hrun.invariant (Settled t bound db) (.refl t bound db)
    fun _ _ _ hsettled hstep => hsettled.step hstep

theorem Settled.rosterEntries_eq (hsettled : Settled t bound db db') :
    rosterEntries db' t = rosterEntries db t := by
  rw [rosterEntries, rosterEntries, hsettled.roster]

theorem Settled.covered (hsettled : Settled t bound db db') {profileId : Int}
    (hcovered : Covered db t bound profileId) :
    Covered db' t bound profileId := by
  obtain ⟨rating, hlive, hle⟩ := hcovered
  obtain ⟨rating', hlive', hmono⟩ := hsettled.live profileId rating hlive
  refine ⟨rating', hlive', fun peak hpeak => ?_⟩
  rw [hsettled.peaks] at hpeak
  exact (hle peak hpeak).trans hmono

theorem Settled.frozenPeak_eq (hsettled : Settled t bound db db')
    {profileId : Int} (hcovered : Covered db t bound profileId)
    (hrecorded : Recorded db t bound profileId) :
    frozenPeak db' t bound profileId = frozenPeak db t bound profileId := by
  obtain ⟨peak, hpeak⟩ := recordedPeak_isSome hrecorded
  rw [frozenPeak_of_covered hcovered hpeak,
    frozenPeak_of_covered (hsettled.covered hcovered)
      ((hsettled.peaks profileId).trans hpeak)]

instance (profileId : Int) : Decidable (Recorded db t bound profileId) :=
  inferInstanceAs (Decidable (∃ snapshot ∈ snapshotsOf db t profileId,
    snapshot.observedAt ≤ bound))

/-- The entries that were recorded by the end of the window, or link nobody
who could be. -/
def recordedEntries (db : Database) (t : Tournament) (bound : Instant) :
    List TournamentPlayer :=
  (rosterEntries db t).filter fun entry =>
    entry.profileId.all fun profileId => Recorded db t bound profileId

/-- The teams all of whose members are among these. -/
def recordedTeams (db : Database) (t : Tournament) (bound : Instant) :
    List Team :=
  db.teams.rows.filter fun team =>
    ((memberEntries db t).filter (·.1.teamId = team.id)).all fun pair =>
      pair.2.profileId.all fun profileId => Recorded db t bound profileId

/-- The lines of a table about these ids. -/
def linesOf {V : Type} (ids : List Int) (lines : List (Int × V)) :
    List (Int × V) :=
  lines.filter (·.1 ∈ ids)

/-- What the later writes must leave alone: the frozen peak of every recorded
entrant, and what the two tables say of these entrants, and of teams of them,
whoever else is listed. -/
structure Unmoved (t : Tournament) (bound : Instant) (names : Dict Int String)
    (db : Database) (now : Instant) (db' : Database) (now' : Instant) :
    Prop where
  frozen : ∀ entry profileId, Linked db t entry profileId →
    Recorded db t bound profileId →
      frozenPeakByProfile db' t now' [profileId] =
        frozenPeakByProfile db t now [profileId]
  table :
    let ids := (recordedEntries db t bound).map (·.id)
    linesOf ids (tableLines db' t names now') =
      linesOf ids (tableLines db t names now)
  teams :
    let ids := (recordedTeams db t bound).map (·.id)
    linesOf ids (teamLines db' t names now') =
      linesOf ids (teamLines db t names now)

/-- Every recorded entrant's live peak covers what was recorded, and no two of
them share a recorded peak. -/
structure Final (db : Database) (t : Tournament) (bound : Instant) : Prop where
  covered : ∀ entry profileId, Linked db t entry profileId →
    Recorded db t bound profileId → Covered db t bound profileId
  distinct : ∀ left leftProfile right rightProfile,
    Linked db t left leftProfile → Recorded db t bound leftProfile →
      Linked db t right rightProfile → Recorded db t bound rightProfile →
        left.id ≠ right.id →
          recordedPeak db t bound leftProfile ≠
            recordedPeak db t bound rightProfile

theorem mem_recordedEntries {entry : TournamentPlayer} :
    entry ∈ recordedEntries db t bound ↔ entry ∈ rosterEntries db t ∧
      ∀ profileId, entry.profileId = some profileId →
        Recorded db t bound profileId := by
  rw [recordedEntries, List.mem_filter]
  refine and_congr_right fun _ => ?_
  cases entry.profileId with
  | none => simp
  | some profileId => simp

theorem mem_recordedEntries_of_linked {entry : TournamentPlayer}
    {profileId : Int} (hlinked : Linked db t entry profileId)
    (hrecorded : Recorded db t bound profileId) :
    entry ∈ recordedEntries db t bound := by
  refine mem_recordedEntries.mpr
    ⟨mem_rosterEntries.mpr ⟨hlinked.mem, hlinked.tournament⟩, ?_⟩
  intro other hother
  cases hlinked.profile.symm.trans hother
  exact hrecorded

/-- Ids are unique on the roster, so they tell which entries are recorded. -/
theorem id_mem_recordedEntries {entry : TournamentPlayer}
    (hentry : entry ∈ rosterEntries db t) :
    entry.id ∈ (recordedEntries db t bound).map (·.id) ↔
      entry ∈ recordedEntries db t bound := by
  refine ⟨fun hid => ?_, List.mem_map_of_mem⟩
  obtain ⟨other, hother, hsame⟩ := List.mem_map.mp hid
  have hstored := (mem_rosterEntries.mp (mem_recordedEntries.mp hother).1).1
  rwa [← db.tournamentPlayers.eq_of_key_eq hstored
    (mem_rosterEntries.mp hentry).1 hsame]

theorem player_of_recorded (hdb : db.Consistent) {profileId : Int}
    (hrecorded : Recorded db t bound profileId) :
    (db.players.find? profileId).isSome := by
  obtain ⟨snapshot, hsnapshot, _⟩ := hrecorded
  obtain ⟨hstored, hfields⟩ := List.mem_filter.mp hsnapshot
  simp only [Bool.and_eq_true, decide_eq_true_eq] at hfields
  exact hfields.1 ▸ hdb.snapshot_player snapshot hstored

theorem visible_of_recorded (hdb : db.Consistent)
    (hsettled : Settled t bound db db') {entry : TournamentPlayer}
    (hentry : entry ∈ recordedEntries db t bound) :
    (rosterRow db' t entry).visible := by
  obtain ⟨_, hrecorded⟩ := mem_recordedEntries.mp hentry
  cases hprofile : entry.profileId with
  | none => simp [RosterRow.visible, rosterRow, hprofile]
  | some profileId =>
      have hplayer := hsettled.players profileId
        (player_of_recorded hdb (hrecorded profileId hprofile))
      simpa [RosterRow.visible, rosterRow, hprofile] using hplayer

/-- What the table says of the recorded entries is their own ranking. -/
theorem linesOf_tableLines (hdb : db.Consistent)
    (hsettled : Settled t bound db db') (names : Dict Int String)
    (now : Instant) :
    linesOf ((recordedEntries db t bound).map (·.id))
        (tableLines db' t names now) =
      (sortBy (fun entry => standingKey t (tableMetric db' t now)
        (rosterRow db' t entry)) (recordedEntries db t bound)).map fun entry =>
          (entry.id, tableMetric db' t now (rosterRow db' t entry)) := by
  have hnames : UniqueNames db'.tournamentPlayers :=
    hsettled.roster ▸ hdb.name_unique
  have hkeep : ∀ entry ∈ rosterEntries db t,
      (decide (entry.id ∈ (recordedEntries db t bound).map (·.id)) &&
          (rosterRow db' t entry).visible) =
        entry.profileId.all fun profileId => Recorded db t bound profileId := by
    intro entry hentry
    rw [Bool.eq_iff_iff, Bool.and_eq_true, decide_eq_true_eq,
      id_mem_recordedEntries hentry]
    constructor
    · rintro ⟨hmem, _⟩
      exact (List.mem_filter.mp hmem).2
    · intro hall
      have hmem : entry ∈ recordedEntries db t bound :=
        List.mem_filter.mpr ⟨hentry, hall⟩
      exact ⟨hmem, visible_of_recorded hdb hsettled hmem⟩
  have hrows : (rosterRows db' t).filter (fun row =>
      row.entry.id ∈ (recordedEntries db t bound).map (·.id)) =
        (recordedEntries db t bound).map (rosterRow db' t) := by
    have hlisted : rosterRows db' t = ((rosterEntries db t).map
        (rosterRow db' t)).filter RosterRow.visible := by
      rw [← hsettled.rosterEntries_eq]
      rfl
    rw [hlisted, List.filter_filter, List.filter_map]
    exact congrArg _ (List.filter_congr hkeep)
  rw [linesOf, tableLines_rows hnames, orderedRows_eq hnames, List.filter_map]
  refine (congrArg _ (filter_sortBy _ _ _)).trans ?_
  refine (congrArg (fun rows => (sortBy _ rows).map _) hrows).trans ?_
  rw [sortBy_map, List.map_map]
  rfl

theorem tableMetric_closed (hrank : t.rankBy = .peakRating) {now : Instant}
    (hclosed : closedBound t now = some bound) (entry : TournamentPlayer) :
    tableMetric db t now (rosterRow db t entry) =
      entry.profileId.bind (frozenPeak db t bound) := by
  rw [tableMetric, hclosed, ← frozenMetric_peak hrank]
  rfl

theorem Final.metric_eq (hfinal : Final db t bound)
    (hsettled : Settled t bound db db') (hrank : t.rankBy = .peakRating)
    {now now' : Instant} (hclosed : closedBound t now = some bound)
    (hclosed' : closedBound t now' = some bound) {entry : TournamentPlayer}
    (hentry : entry ∈ recordedEntries db t bound) :
    tableMetric db' t now' (rosterRow db' t entry) =
      tableMetric db t now (rosterRow db t entry) := by
  rw [tableMetric_closed hrank hclosed, tableMetric_closed hrank hclosed']
  obtain ⟨hroster, hrecorded⟩ := mem_recordedEntries.mp hentry
  obtain ⟨hmem, htournament⟩ := mem_rosterEntries.mp hroster
  cases hprofile : entry.profileId with
  | none => rfl
  | some profileId =>
      have hrec := hrecorded profileId hprofile
      exact hsettled.frozenPeak_eq (hfinal.covered entry profileId
        ⟨hmem, htournament, hprofile⟩ hrec) hrec

theorem Final.frozenPeak_recorded (hfinal : Final db t bound)
    {entry : TournamentPlayer} {profileId : Int}
    (hlinked : Linked db t entry profileId)
    (hrecorded : Recorded db t bound profileId) :
    frozenPeak db t bound profileId = recordedPeak db t bound profileId :=
  frozenPeak_eq_recordedPeak (hfinal.covered entry profileId hlinked hrecorded)
    hrecorded

/-- Two recorded entries on the same frozen metric are the same entry, or both
are unlinked. -/
theorem Final.eq_or_unlinked (hfinal : Final db t bound)
    {left right : TournamentPlayer}
    (hleft : left ∈ recordedEntries db t bound)
    (hright : right ∈ recordedEntries db t bound)
    (hsame : left.profileId.bind (frozenPeak db t bound) =
      right.profileId.bind (frozenPeak db t bound)) :
    left = right ∨ left.profileId = none ∧ right.profileId = none := by
  obtain ⟨hroster, hrecorded⟩ := mem_recordedEntries.mp hleft
  obtain ⟨hroster', hrecorded'⟩ := mem_recordedEntries.mp hright
  obtain ⟨hmem, htournament⟩ := mem_rosterEntries.mp hroster
  obtain ⟨hmem', htournament'⟩ := mem_rosterEntries.mp hroster'
  have hsome : ∀ entry profileId, Linked db t entry profileId →
      Recorded db t bound profileId →
        frozenPeak db t bound profileId ≠ none := by
    intro entry profileId hlinked hrec
    obtain ⟨peak, hpeak⟩ := recordedPeak_isSome hrec
    simp [hfinal.frozenPeak_recorded hlinked hrec, hpeak]
  cases hprofile : left.profileId with
  | none =>
      cases hprofile' : right.profileId with
      | none => exact Or.inr ⟨rfl, rfl⟩
      | some profileId' =>
          rw [hprofile, hprofile'] at hsame
          exact absurd hsame.symm (hsome right profileId'
            ⟨hmem', htournament', hprofile'⟩ (hrecorded' profileId' hprofile'))
  | some profileId =>
      have hlinked : Linked db t left profileId :=
        ⟨hmem, htournament, hprofile⟩
      have hrec := hrecorded profileId hprofile
      cases hprofile' : right.profileId with
      | none =>
          rw [hprofile, hprofile'] at hsame
          exact absurd hsame (hsome left profileId hlinked hrec)
      | some profileId' =>
          have hlinked' : Linked db t right profileId' :=
            ⟨hmem', htournament', hprofile'⟩
          have hrec' := hrecorded' profileId' hprofile'
          rw [hprofile, hprofile', Option.bind_some, Option.bind_some,
            hfinal.frozenPeak_recorded hlinked hrec,
            hfinal.frozenPeak_recorded hlinked' hrec'] at hsame
          by_cases hid : left.id = right.id
          · exact Or.inl (db.tournamentPlayers.eq_of_key_eq hmem hmem' hid)
          · exact absurd hsame (hfinal.distinct left profileId right profileId'
              hlinked hrec hlinked' hrec' hid)

theorem Final.tableLines_eq (hdb : db.Consistent)
    (hrank : t.rankBy = .peakRating) (hfinal : Final db t bound)
    (hsettled : Settled t bound db db') (names : Dict Int String)
    {now now' : Instant} (hclosed : closedBound t now = some bound)
    (hclosed' : closedBound t now' = some bound) :
    linesOf ((recordedEntries db t bound).map (·.id))
        (tableLines db' t names now') =
      linesOf ((recordedEntries db t bound).map (·.id))
        (tableLines db t names now) := by
  rw [linesOf_tableLines hdb hsettled,
    linesOf_tableLines hdb (.refl t bound db)]
  have hmetric : ∀ entry ∈ recordedEntries db t bound,
      tableMetric db' t now' (rosterRow db' t entry) =
        tableMetric db t now (rosterRow db t entry) :=
    fun entry => hfinal.metric_eq hsettled hrank hclosed hclosed'
  have hsorted : sortBy (fun entry => standingKey t (tableMetric db' t now')
        (rosterRow db' t entry)) (recordedEntries db t bound) =
      sortBy (fun entry => standingKey t (tableMetric db t now)
        (rosterRow db t entry)) (recordedEntries db t bound) := by
    apply sortBy_congr _ _ (List.Perm.refl _)
    · intro left hleft right hright
      unfold standingKey
      rw [hmetric left hleft, hmetric right hright]
      apply toLex_le_congr
      intro htie
      have hsame := descNullsLast_injective htie
      rw [tableMetric_closed hrank hclosed, tableMetric_closed hrank hclosed]
        at hsame
      rcases hfinal.eq_or_unlinked hleft hright hsame with
        rfl | ⟨hunlinked, hunlinked'⟩
      · simp
      · simp [rosterRow, hunlinked, hunlinked']
    · intro left hleft right hright hkey
      have hname := codePoints_injective
        (congrArg (fun key => (ofLex (ofLex key).2).2) hkey)
      obtain ⟨hmem, htournament⟩ :=
        mem_rosterEntries.mp (mem_recordedEntries.mp hleft).1
      obtain ⟨hmem', htournament'⟩ :=
        mem_rosterEntries.mp (mem_recordedEntries.mp hright).1
      exact db.tournamentPlayers.eq_of_key_eq hmem hmem'
        (hdb.name_unique left hmem right hmem'
          (htournament.trans htournament'.symm) hname)
  rw [hsorted]
  apply List.map_congr_left
  intro entry hentry
  rw [hmetric entry ((mem_sortBy _).mp hentry)]

theorem mem_rosterEntries_of_member (hdb : db.Consistent) {member : TeamMember}
    {entry : TournamentPlayer} (hmem : (member, entry) ∈ memberEntries db t) :
    entry ∈ rosterEntries db t := by
  obtain ⟨hmember, hentry, team, hteam, htournament⟩ := mem_memberEntries.mp hmem
  refine mem_rosterEntries.mpr ⟨db.tournamentPlayers.mem_of_find? hentry, ?_⟩
  rw [← htournament]
  exact hdb.member_tournament member hmember team (db.teams.mem_of_find? hteam)
    entry (db.tournamentPlayers.mem_of_find? hentry)
    (db.teams.key_of_find? hteam).symm
    (db.tournamentPlayers.key_of_find? hentry).symm

/-- A team of recorded members counts what it counted. -/
theorem Final.memberMetrics_eq (hdb : db.Consistent)
    (hrank : t.rankBy = .peakRating) (hfinal : Final db t bound)
    (hsettled : Settled t bound db db') {now now' : Instant}
    (hclosed : closedBound t now = some bound)
    (hclosed' : closedBound t now' = some bound) {team : Team}
    (hteam : team ∈ recordedTeams db t bound) :
    ((memberRows db' t).filter (·.member.teamId = team.id)).filterMap
        (memberRowMetric db' t now') =
      ((memberRows db t).filter (·.member.teamId = team.id)).filterMap
        (memberRowMetric db t now) := by
  rw [memberMetrics_closed hclosed', memberMetrics_closed hclosed,
    memberEntries_congr t hsettled.roster hsettled.teams hsettled.members]
  apply List.filterMap_congr
  intro pair hpair
  have hroster := mem_rosterEntries_of_member hdb (List.mem_of_mem_filter hpair)
  have hentry : pair.2 ∈ recordedEntries db t bound :=
    List.mem_filter.mpr
      ⟨hroster, List.all_eq_true.mp (List.mem_filter.mp hteam).2 pair hpair⟩
  have hmetric := hfinal.metric_eq hsettled hrank hclosed hclosed' hentry
  rw [tableMetric_closed hrank hclosed, tableMetric_closed hrank hclosed']
    at hmetric
  rw [frozenMetric_peak hrank, frozenMetric_peak hrank]
  exact hmetric

/-- What the team table says of the teams of recorded members. -/
theorem linesOf_teamLines (names : Dict Int String) (now : Instant)
    (hteams : db'.teams = db.teams) :
    linesOf ((recordedTeams db t bound).map (·.id))
        (teamLines db' t names now) =
      (sortBy (fun team : Team => -(((memberRows db' t).filter
        (·.member.teamId = team.id)).filterMap (memberRowMetric db' t now)).sum)
          ((recordedTeams db t bound).filter (·.tournamentId = t.id))).map
            fun team => (team.id, (((memberRows db' t).filter
              (·.member.teamId = team.id)).filterMap
                (memberRowMetric db' t now)).sum) := by
  have hkeep : (db.teams.rows.filter (·.tournamentId = t.id)).filter
        (fun team => team.id ∈ (recordedTeams db t bound).map (·.id)) =
      (recordedTeams db t bound).filter (·.tournamentId = t.id) := by
    rw [recordedTeams, List.filter_filter, List.filter_filter]
    refine List.filter_congr fun team hteam => ?_
    rw [Bool.and_comm]
    refine congrArg _ ?_
    rw [Bool.eq_iff_iff, decide_eq_true_eq]
    constructor
    · intro hid
      obtain ⟨other, hother, hsame⟩ := List.mem_map.mp hid
      obtain ⟨hstored, hall⟩ := List.mem_filter.mp hother
      rwa [db.teams.eq_of_key_eq hstored hteam hsame] at hall
    · intro hall
      exact List.mem_map_of_mem (List.mem_filter.mpr ⟨hteam, hall⟩)
  rw [linesOf, LiveStandings.teamLines_eq, hteams, List.filter_map]
  refine (congrArg _ (filter_sortBy _ _ _)).trans ?_
  exact congrArg (fun teams => (sortBy _ teams).map _) hkeep

theorem Final.teamLines_eq (hdb : db.Consistent)
    (hrank : t.rankBy = .peakRating) (hfinal : Final db t bound)
    (hsettled : Settled t bound db db') (names : Dict Int String)
    {now now' : Instant} (hclosed : closedBound t now = some bound)
    (hclosed' : closedBound t now' = some bound) :
    linesOf ((recordedTeams db t bound).map (·.id))
        (teamLines db' t names now') =
      linesOf ((recordedTeams db t bound).map (·.id))
        (teamLines db t names now) := by
  rw [linesOf_teamLines names now' hsettled.teams, linesOf_teamLines names now rfl]
  have hmetrics := fun team (hteam : team ∈
      (recordedTeams db t bound).filter (·.tournamentId = t.id)) =>
    hfinal.memberMetrics_eq hdb hrank hsettled hclosed hclosed'
      (List.mem_of_mem_filter hteam)
  rw [sortBy_congr_keys fun team hteam => by rw [hmetrics team hteam]]
  apply List.map_congr_left
  intro team hteam
  rw [hmetrics team ((mem_sortBy _).mp hteam)]

theorem Final.unmoved (hdb : db.Consistent) (hrank : t.rankBy = .peakRating)
    (hfinal : Final db t bound) (hsettled : Settled t bound db db')
    (names : Dict Int String) {now now' : Instant}
    (hclosed : closedBound t now = some bound)
    (hclosed' : closedBound t now' = some bound) :
    Unmoved t bound names db now db' now' where
  frozen := by
    intro entry profileId hlinked hrecorded
    have hpeak := hsettled.frozenPeak_eq
      (hfinal.covered entry profileId hlinked hrecorded) hrecorded
    simp [frozenPeakByProfile, frozenByProfile, hclosed, hclosed', hpeak]
  table := hfinal.tableLines_eq hdb hrank hsettled names hclosed hclosed'
  teams := hfinal.teamLines_eq hdb hrank hsettled names hclosed hclosed'

/-- A reported rating, as a stats tick binds it. -/
def reported (t : Tournament) (now : Instant)
    (profileId currentRating maxRating : Int) : PlayerRating where
  profileId := profileId
  leaderboardId := t.leaderboardId
  currentRating := currentRating
  maxRating := maxRating
  wins := 0
  losses := 0
  streak := 0
  drops := 0
  rank := none
  rankTotal := none
  regionRank := none
  regionRankTotal := none
  lastMatchAt := none
  updatedAt := now

/-- A stats tick after the window, reporting these ratings. -/
theorem exists_stats_write (bound : Instant) (ratings : List PlayerRating)
    (hplayers : ∀ row ∈ ratings, (db.players.find? row.profileId).isSome)
    (hmono : ∀ rating ∈ ratings, ∀ stored,
      db.playerRatings.find? rating.key = some stored →
        stored.maxRating ≤ rating.maxRating) :
    ∃ db', Run (PostWindow bound) db [.stats (bound + 1) [] ratings] db' ∧
      db'.playerRatings = db.playerRatings.overwriteAll ratings := by
  obtain ⟨db', hwrite⟩ := writeStats_isOk (bound + 1) hplayers
  have hrun := Run.single (PostWindow.stats (Int.lt_succ bound) hmono hwrite)
  obtain ⟨table, appended, _, _, rfl⟩ := writeStats_ok hwrite
  exact ⟨_, hrun, rfl⟩

/-- A later live peak may be anything from the stored one up, and the frozen
peak is clamped to it. -/
theorem exists_clamped_peak (hdb : db.Consistent) {profileId peak : Int}
    (hrecorded : Recorded db t bound profileId)
    (hpeak : recordedPeak db t bound profileId = some peak) (maxRating : Int)
    (hmono : ∀ stored, liveRating db t profileId = some stored →
      stored.maxRating ≤ maxRating) :
    ∃ writes db', Run (PostWindow bound) db writes db' ∧
      frozenPeak db' t bound profileId =
        if maxRating < peak then some maxRating else some peak := by
  let rating := reported t (bound + 1) profileId maxRating maxRating
  obtain ⟨db', hrun, hratings⟩ := exists_stats_write bound [rating]
    (List.forall_mem_singleton.mpr (player_of_recorded hdb hrecorded))
    (List.forall_mem_singleton.mpr hmono)
  refine ⟨_, db', hrun, ?_⟩
  have hsettled : Settled t bound db db' := .of_run hrun
  have hlive : liveRating db' t profileId = some rating := by
    rw [liveRating, hratings, Table.find?_overwriteAll]
    simp [lastUnder, PlayerRating.key, rating, reported]
  rw [frozenPeak, hsettled.peaks, hpeak, hlive]
  rfl

theorem exists_moved_peak (hdb : db.Consistent) {profileId : Int}
    (hrecorded : Recorded db t bound profileId)
    (huncovered : ¬Covered db t bound profileId) :
    ∃ writes db', Run (PostWindow bound) db writes db' ∧
      frozenPeak db' t bound profileId ≠ frozenPeak db t bound profileId := by
  obtain ⟨peak, hpeak⟩ := recordedPeak_isSome hrecorded
  cases hlive : liveRating db t profileId with
  | none =>
      obtain ⟨writes, db', hrun, hfrozen⟩ :=
        exists_clamped_peak hdb hrecorded hpeak (peak - 1) (by simp [hlive])
      refine ⟨writes, db', hrun, ?_⟩
      have hbefore : frozenPeak db t bound profileId = some peak := by
        simp [frozenPeak, hpeak, hlive]
      rw [hfrozen, hbefore, if_pos (by omega)]
      simp
  | some rating =>
      have hlt : rating.maxRating < peak := by
        by_contra hnot
        refine huncovered ⟨rating, hlive, fun peak' hpeak' => ?_⟩
        rw [hpeak] at hpeak'
        cases hpeak'
        omega
      obtain ⟨writes, db', hrun, hfrozen⟩ :=
        exists_clamped_peak hdb hrecorded hpeak (rating.maxRating + 1)
          (fun stored hstored => by
            rw [hlive] at hstored
            cases hstored
            omega)
      refine ⟨writes, db', hrun, ?_⟩
      have hbefore : frozenPeak db t bound profileId = some rating.maxRating := by
        simp [frozenPeak, hpeak, hlive, hlt]
      rw [hfrozen, hbefore]
      split
      · simp
      · simp
        omega

theorem linesOf_ids (hdb : db.Consistent) (hsettled : Settled t bound db db')
    (names : Dict Int String) (now : Instant) :
    (linesOf ((recordedEntries db t bound).map (·.id))
        (tableLines db' t names now)).map (·.1) =
      (sortBy (fun entry => standingKey t (tableMetric db' t now)
        (rosterRow db' t entry)) (recordedEntries db t bound)).map (·.id) := by
  rw [linesOf_tableLines hdb hsettled, List.map_map]
  rfl

/-- A later poll may report any current rating of two entrants whose live peaks
are stored. -/
theorem exists_reported_pair (bound : Instant)
    {firstProfile secondProfile : Int}
    (hprofiles : firstProfile ≠ secondProfile)
    (hfirst : (db.players.find? firstProfile).isSome)
    (hsecond : (db.players.find? secondProfile).isSome)
    {rating rating' : PlayerRating}
    (hlive : liveRating db t firstProfile = some rating)
    (hlive' : liveRating db t secondProfile = some rating')
    (current current' : Int) :
    ∃ writes db', Run (PostWindow bound) db writes db' ∧
      liveRating db' t firstProfile =
        some (reported t (bound + 1) firstProfile current rating.maxRating) ∧
      liveRating db' t secondProfile = some
        (reported t (bound + 1) secondProfile current' rating'.maxRating) := by
  let row := reported t (bound + 1) firstProfile current rating.maxRating
  let row' := reported t (bound + 1) secondProfile current' rating'.maxRating
  have hmono : ∀ stored, liveRating db t firstProfile = some stored →
      stored.maxRating ≤ row.maxRating := by
    intro stored hstored
    cases hlive.symm.trans hstored
    exact le_refl _
  have hmono' : ∀ stored, liveRating db t secondProfile = some stored →
      stored.maxRating ≤ row'.maxRating := by
    intro stored hstored
    cases hlive'.symm.trans hstored
    exact le_refl _
  obtain ⟨db', hrun, hratings⟩ := exists_stats_write bound [row, row']
    (List.forall_mem_cons.mpr
      ⟨hfirst, List.forall_mem_singleton.mpr hsecond⟩)
    (List.forall_mem_cons.mpr ⟨hmono, List.forall_mem_singleton.mpr hmono'⟩)
  refine ⟨_, db', hrun, ?_, ?_⟩
  · rw [liveRating, hratings, Table.find?_overwriteAll]
    simp [lastUnder, PlayerRating.key, row, row', reported, hprofiles.symm]
  · rw [liveRating, hratings, Table.find?_overwriteAll]
    simp [lastUnder, PlayerRating.key, row', reported]

/-- Of two entrants on one frozen peak the one with the higher current rating
comes first. -/
theorem sublist_of_frozen_tie (hdb : db.Consistent)
    (hrank : t.rankBy = .peakRating) (hsettled : Settled t bound db db')
    (names : Dict Int String) {now : Instant}
    (hclosed : closedBound t now = some bound)
    {left right : TournamentPlayer} {leftProfile rightProfile : Int}
    (hleft : Linked db t left leftProfile)
    (hrecorded : Recorded db t bound leftProfile)
    (hright : Linked db t right rightProfile)
    (hrecorded' : Recorded db t bound rightProfile)
    (htie : frozenPeak db' t bound leftProfile =
      frozenPeak db' t bound rightProfile) {rating rating' : PlayerRating}
    (hlive : liveRating db' t leftProfile = some rating)
    (hlive' : liveRating db' t rightProfile = some rating')
    (hlt : rating'.currentRating < rating.currentRating) :
    [left.id, right.id].Sublist ((linesOf
      ((recordedEntries db t bound).map (·.id))
        (tableLines db' t names now)).map (·.1)) := by
  have hrated : ∀ entry profileId, Linked db t entry profileId →
      Recorded db t bound profileId →
        (rosterRow db' t entry).rating = liveRating db' t profileId := by
    intro entry profileId hlinked hrec
    exact rating_rosterRow hlinked.profile (hsettled.players _
      (player_of_recorded hdb hrec))
  have hmetric : tableMetric db' t now (rosterRow db' t left) =
      tableMetric db' t now (rosterRow db' t right) := by
    rw [tableMetric_closed hrank hclosed, tableMetric_closed hrank hclosed,
      hleft.profile, hright.profile, Option.bind_some, Option.bind_some, htie]
  have hother : otherRating t rating' < otherRating t rating := by
    simpa [otherRating, hrank] using hlt
  have hkey : standingKey t (tableMetric db' t now) (rosterRow db' t left) <
      standingKey t (tableMetric db' t now) (rosterRow db' t right) :=
    standingKey_lt_of_tie hmetric
      ((hrated left leftProfile hleft hrecorded).trans hlive)
      ((hrated right rightProfile hright hrecorded').trans hlive') hother
  have hsub := sublist_of_key_lt
    (fun entry => standingKey t (tableMetric db' t now) (rosterRow db' t entry))
    (mem_recordedEntries_of_linked hleft hrecorded)
    (mem_recordedEntries_of_linked hright hrecorded') hkey
  rw [linesOf_ids hdb hsettled]
  exact hsub.map TournamentPlayer.id

/-- Two recorded entrants on one frozen peak can be made to change places. -/
theorem exists_swapped (hdb : db.Consistent) (hrank : t.rankBy = .peakRating)
    (hcovered : ∀ entry profileId, Linked db t entry profileId →
      Recorded db t bound profileId → Covered db t bound profileId)
    (names : Dict Int String) {now : Instant}
    (hclosed : closedBound t now = some bound) {first second : TournamentPlayer}
    {firstProfile secondProfile : Int} (hfirst : Linked db t first firstProfile)
    (hrecorded : Recorded db t bound firstProfile)
    (hsecond : Linked db t second secondProfile)
    (hrecorded' : Recorded db t bound secondProfile)
    (hne : first.id ≠ second.id)
    (htie : frozenPeak db t bound firstProfile =
      frozenPeak db t bound secondProfile)
    (hbefore : [first.id, second.id].Sublist ((linesOf
      ((recordedEntries db t bound).map (·.id))
        (tableLines db t names now)).map (·.1))) :
    ∃ writes db', Run (PostWindow bound) db writes db' ∧
      linesOf ((recordedEntries db t bound).map (·.id))
          (tableLines db' t names now) ≠
        linesOf ((recordedEntries db t bound).map (·.id))
          (tableLines db t names now) := by
  have hprofiles : firstProfile ≠ secondProfile := by
    intro heq
    refine hne (hdb.profile_unique first hfirst.mem second hsecond.mem
      (hfirst.tournament.trans hsecond.tournament.symm) ?_ ?_)
    · rw [hfirst.profile, hsecond.profile, heq]
    · simp [hfirst.profile]
  have hcover := hcovered first firstProfile hfirst hrecorded
  have hcover' := hcovered second secondProfile hsecond hrecorded'
  obtain ⟨rating, hlive, _⟩ := hcover
  obtain ⟨rating', hlive', _⟩ := hcover'
  obtain ⟨writes, db', hrun, hreported, hreported'⟩ :=
    exists_reported_pair bound hprofiles (player_of_recorded hdb hrecorded)
      (player_of_recorded hdb hrecorded') hlive hlive' 0 1
  have hsettled : Settled t bound db db' := .of_run hrun
  refine ⟨writes, db', hrun, fun hsame => ?_⟩
  have hafter : [second.id, first.id].Sublist ((linesOf
      ((recordedEntries db t bound).map (·.id))
        (tableLines db' t names now)).map (·.1)) := by
    refine sublist_of_frozen_tie hdb hrank hsettled names hclosed hsecond
      hrecorded' hfirst hrecorded ?_ hreported' hreported Int.zero_lt_one
    rw [hsettled.frozenPeak_eq (hcovered first firstProfile hfirst hrecorded)
        hrecorded,
      hsettled.frozenPeak_eq
        (hcovered second secondProfile hsecond hrecorded') hrecorded', htie]
  have hnodup : ((linesOf ((recordedEntries db t bound).map (·.id))
      (tableLines db' t names now)).map (·.1)).Nodup := by
    rw [linesOf_ids hdb hsettled]
    exact ((sortBy_perm _ _).map TournamentPlayer.id).symm.nodup
      ((List.filter_sublist.map _).nodup (nodup_rosterEntries db t))
  exact not_sublist_pair_swap hnodup hafter (hsame ▸ hbefore)

theorem frozenPeakByProfile_single {now : Instant}
    (hclosed : closedBound t now = some bound) (profileId : Int) :
    frozenPeakByProfile db t now [profileId] =
      some [(profileId, frozenPeak db t bound profileId)] := by
  rw [frozenPeakByProfile, frozenByProfile, hclosed]
  rfl

theorem mem_linesOf_tableLines (hdb : db.Consistent) (names : Dict Int String)
    (now : Instant) {entry : TournamentPlayer} {profileId : Int}
    (hlinked : Linked db t entry profileId)
    (hrecorded : Recorded db t bound profileId) :
    entry.id ∈ (linesOf ((recordedEntries db t bound).map (·.id))
      (tableLines db t names now)).map (·.1) := by
  rw [linesOf_ids hdb (.refl t bound db)]
  exact List.mem_map_of_mem ((mem_sortBy _).mpr
    (mem_recordedEntries_of_linked hlinked hrecorded))

end Recorded

/-- What the final table says of the recorded entrants stays as it is through
every run of later poller writes if and only if each one's live peak covers
what was recorded, and no two of them share a recorded peak. -/
theorem final_table_fixed_iff {db : Database} (hdb : db.Consistent)
    {t : Tournament} (hrank : t.rankBy = .peakRating) {now bound : Instant}
    (hclosed : closedBound t now = some bound) (names : Dict Int String) :
    (∀ writes db' now', Run (PostWindow bound) db writes db' → bound ≤ now' →
      Unmoved t bound names db now db' now') ↔ Final db t bound := by
  have hend := (closedBound_eq_some_iff.mp hclosed).1
  constructor
  · intro hunmoved
    have hstill := fun writes db' hrun => hunmoved writes db' now hrun
      (closedBound_eq_some_iff.mp hclosed).2
    have hcovered : ∀ entry profileId, Linked db t entry profileId →
        Recorded db t bound profileId → Covered db t bound profileId := by
      intro entry profileId hlinked hrecorded
      by_contra huncovered
      obtain ⟨writes, db', hrun, hmoved⟩ :=
        exists_moved_peak hdb hrecorded huncovered
      have hfrozen := (hstill writes db' hrun).frozen entry profileId hlinked
        hrecorded
      rw [frozenPeakByProfile_single hclosed,
        frozenPeakByProfile_single hclosed] at hfrozen
      simp only [Option.some.injEq, List.cons.injEq, Prod.mk.injEq, true_and,
        and_true] at hfrozen
      exact hmoved hfrozen
    refine ⟨hcovered, fun left leftProfile right rightProfile hleft hrecorded
      hright hrecorded' hne htie => ?_⟩
    have htied : frozenPeak db t bound leftProfile =
        frozenPeak db t bound rightProfile := by
      rw [frozenPeak_eq_recordedPeak
          (hcovered left leftProfile hleft hrecorded) hrecorded, htie,
        frozenPeak_eq_recordedPeak
          (hcovered right rightProfile hright hrecorded') hrecorded']
    rcases sublist_pair_total
      (mem_linesOf_tableLines hdb names now hleft hrecorded)
      (mem_linesOf_tableLines hdb names now hright hrecorded') hne
      with hbefore | hbefore
    · obtain ⟨writes, db', hrun, hmoved⟩ := exists_swapped hdb hrank hcovered
        names hclosed hleft hrecorded hright hrecorded' hne htied hbefore
      exact hmoved (hstill writes db' hrun).table
    · obtain ⟨writes, db', hrun, hmoved⟩ := exists_swapped hdb hrank hcovered
        names hclosed hright hrecorded' hleft hrecorded hne.symm htied.symm
        hbefore
      exact hmoved (hstill writes db' hrun).table
  · intro hfinal writes db' now' hrun hlater
    exact hfinal.unmoved hdb hrank (.of_run hrun) names hclosed
      (closedBound_eq_some_iff.mpr ⟨hend, hlater⟩)

namespace FinalTableWitness

open Factory

/-- The window closed at 1000. -/
def cup : Tournament := makeTournament .peakRating none (some 1000)

/-- Both entrants' live peaks are the ones recorded at 500. -/
def settled : Database :=
  seed [makePlayerRating 1 1500 1600, makePlayerRating 2 1450 1550]
    [makePlayerRatingSnapshot 1 1 1500 1600 500,
      makePlayerRatingSnapshot 2 2 1450 1550 500] [] []

/-- The first entrant's peak was rebased down, from 1600 to 1550, in the
window. -/
def rebased : Database :=
  seed [makePlayerRating 1 1500 1550, makePlayerRating 2 1450 1570]
    [makePlayerRatingSnapshot 1 1 1500 1600 500,
      makePlayerRatingSnapshot 2 2 1450 1570 500,
      makePlayerRatingSnapshot 3 1 1500 1550 600] [] []

theorem settled_consistent : settled.Consistent := by
  constructor <;> decide

theorem rebased_consistent : rebased.Consistent := by
  constructor <;> decide

end FinalTableWitness

open FinalTableWitness in
/-- Where the recorded peaks are the live ones and differ, the table is
final. -/
theorem final_table_fixed_iff_settled :
    settled.Consistent ∧ closedBound cup 2000 = some 1000 ∧
      ((∀ writes db' now', Run (PostWindow 1000) settled writes db' →
          (1000 : Instant) ≤ now' →
            Unmoved cup 1000 [] settled 2000 db' now') ↔
        Final settled cup 1000) :=
  ⟨settled_consistent, by decide,
    final_table_fixed_iff settled_consistent rfl (by decide) []⟩

open FinalTableWitness in
/-- A peak that was rebased down in the window rises again with a game played
after it. -/
theorem rebased_peak_moves :
    ¬ ∀ (db : Database) (t : Tournament) (now bound : Instant)
      (names : Dict Int String), db.Consistent → t.rankBy = .peakRating →
        closedBound t now = some bound →
          ∀ writes db' now', Run (PostWindow bound) db writes db' →
            bound ≤ now' → Unmoved t bound names db now db' now' := by
  intro hclaim
  have hknown : (rebased.players.find? 1).isSome := by decide
  have hstored : rebased.playerRatings.find? (1, 3) =
      some (Factory.makePlayerRating 1 1500 1550) := by decide
  obtain ⟨db', hrun, hratings⟩ := exists_stats_write 1000
    [reported cup 1001 1 1590 1590] (fun row hrow => by
      cases List.mem_singleton.mp hrow
      exact hknown)
    (List.forall_mem_singleton.mpr fun stored hfind => by
      cases hstored.symm.trans hfind
      decide)
  have hunmoved := hclaim rebased cup 2000 1000 [] rebased_consistent rfl
    (by decide) _ db' 2000 hrun (by decide)
  have hfrozen := hunmoved.frozen (Factory.makeEntry 1 "p1") 1
    ⟨List.mem_cons_self, rfl, rfl⟩
    ⟨Factory.makePlayerRatingSnapshot 1 1 1500 1600 500, by decide, by decide⟩
  have hclosed : closedBound cup 2000 = some 1000 := by decide
  have hsettled : Settled cup 1000 rebased db' := .of_run hrun
  have hpeak : recordedPeak rebased cup 1000 1 = some 1600 := by decide
  have hbefore : frozenPeak rebased cup 1000 1 = some 1550 := by decide
  have hafter : frozenPeak db' cup 1000 1 = some 1590 := by
    have hlive : liveRating db' cup 1 =
        some (reported cup 1001 1 1590 1590) := by
      rw [liveRating, hratings]
      decide
    rw [frozenPeak, hsettled.peaks, hpeak, hlive]
    decide
  rw [frozenPeakByProfile_single hclosed, frozenPeakByProfile_single hclosed,
    hbefore, hafter] at hfrozen
  exact absurd hfrozen (by decide)

end LiveStandings
