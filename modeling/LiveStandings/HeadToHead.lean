/-
The head-to-head feed beside the record.  The feed lists the completed matches
in which entrants faced each other; a record counts the games that have an
outcome.  Of a match that two entrants faced each other in, the feed reads the
state of the match and the record the outcome of the player row.
-/
import LiveStandings.Standings
import Mathlib.Data.List.Dedup
import Mathlib.Data.List.Perm.Subperm

namespace LiveStandings

open KeyedTable PyJson Ranking

/-- `HeadToHeadPlayer`. -/
structure HeadToHeadPlayer where
  tournamentPlayerId : Int
  profileId : Int
  name : String
  teamId : Int
  civilizationId : Int
  civilizationName : Option String
  oldRating : Option Int
  newRating : Option Int
  outcome : Option MatchOutcome
deriving Repr, DecidableEq

/-- `HeadToHeadMatch`. -/
structure HeadToHeadMatch where
  matchId : Int
  mapName : String
  startedAt : Instant
  completedAt : Option Instant
  durationSeconds : Option Int
  entrants : List HeadToHeadPlayer
deriving Repr, DecidableEq

/-- A match on the tournament's leaderboard that started in its window. -/
def Match.within (t : Tournament) (m : Match) : Bool :=
  m.leaderboardId = some t.leaderboardId && t.inWindow m.startedAt

/-- The rows of entrants in completed matches of the window. -/
def entrantRows (db : Database) (t : Tournament) : List MatchPlayer :=
  db.matchPlayers.rows.filter fun row =>
    (db.matchTable.find? row.matchId).any (fun m =>
      m.within t && m.state = .completed) &&
        (rosterLabelByProfile db t.id row.profileId).isSome

/-- `candidate_match_ids`: the matches with two entrants and two teams among
them. -/
def candidateMatchIds (db : Database) (t : Tournament) : List Int :=
  ((entrantRows db t).map (·.matchId)).dedup.filter fun matchId =>
    let rows := (entrantRows db t).filter (·.matchId = matchId)
    2 ≤ (rows.map (·.profileId)).dedup.length &&
      2 ≤ (rows.map (·.teamId)).dedup.length

/-- The profiles of the linked entrants. -/
def linkedProfiles (db : Database) (t : Tournament) : List Int :=
  ((db.tournamentPlayers.rows.filter (·.tournamentId = t.id)).filterMap
    (·.profileId)).dedup

/-- The matches of the feed before its limit, newest first. -/
def headToHeadMatches (db : Database) (t : Tournament) : List Match :=
  if (linkedProfiles db t).length < 2 then []
  else sortBy (fun m => -m.startedAt) (db.matchTable.rows.filter fun m =>
    (candidateMatchIds db t).contains m.matchId)

/-- The entrants of a match, the winner first. -/
def headToHeadEntrants (db : Database) (t : Tournament)
    (names : Dict Int String) (m : Match) : List HeadToHeadPlayer :=
  sortBy (fun entrant =>
      toLex (!decide (entrant.outcome = some .win), -entrant.oldRating.getD 0))
    ((db.matchPlayers.rows.filter (·.matchId = m.matchId)).filterMap fun row =>
      (rosterLabelByProfile db t.id row.profileId).map fun label =>
        { tournamentPlayerId := label.1
          profileId := row.profileId
          name := label.2
          teamId := row.teamId
          civilizationId := row.civilizationId
          civilizationName := names.get? row.civilizationId
          oldRating := row.oldRating
          newRating := row.newRating
          outcome := row.outcome })

/-- `int(delta.total_seconds())`, of a difference in microseconds. -/
def totalSeconds (delta : Int) : Int := delta.tdiv 1000000

/-- `get_head_to_head`. -/
def getHeadToHead (db : Database) (t : Tournament) (names : Dict Int String)
    (limit : Nat) : ListEnvelope HeadToHeadMatch :=
  let page := (headToHeadMatches db t).take limit
  { lastPolledAt := computeLastPolledAt (page.map fun m => some m.updatedAt)
    items := page.map fun m =>
      { matchId := m.matchId
        mapName := m.mapName
        startedAt := m.startedAt
        completedAt := m.completedAt
        durationSeconds := m.completedAt.map fun completedAt =>
          totalSeconds (completedAt - m.startedAt)
        entrants := headToHeadEntrants db t names m } }

/-- Two entrants who faced each other in a match of the window. -/
structure Faced (db : Database) (t : Tournament) (m : Match)
    (left right : TournamentPlayer) (row row' : MatchPlayer) : Prop where
  stored : m ∈ db.matchTable.rows
  within : m.within t
  left : Linked db t left row.profileId
  right : Linked db t right row'.profileId
  leftRow : row ∈ db.matchPlayers.rows
  rightRow : row' ∈ db.matchPlayers.rows
  leftMatch : row.matchId = m.matchId
  rightMatch : row'.matchId = m.matchId
  entrants : row.profileId ≠ row'.profileId
  sides : row.teamId ≠ row'.teamId

/-- The record of a profile counts a match, before it is capped. -/
def CountedIn (db : Database) (t : Tournament) (profileId matchId : Int) :
    Prop :=
  ∃ game ∈ windowGames db t profileId, game.row.matchId = matchId

/-- The feed selects a match, before it is limited. -/
def FeedSelects (db : Database) (t : Tournament) (matchId : Int) : Prop :=
  ∃ m ∈ headToHeadMatches db t, m.matchId = matchId

/-- Where the record of a profile lists a match, the opponent's entry has its
roster id. -/
def ListsOpponent (db : Database) (t : Tournament) (names : Dict Int String)
    (profileId matchId : Int) (opponent : TournamentPlayer)
    (opponentProfile : Int) : Prop :=
  ∀ (place : Nat) (game : Game),
    ((windowGames db t profileId).take recentResultsLimit)[place]? = some game →
      game.row.matchId = matchId →
        ∃ matchup : RecentMatchup,
          (tournamentRecordByProfile db t names
            profileId).recentMatchups[place]? = some matchup ∧
          ∃ entry ∈ matchup.opponents, entry.profileId = opponentProfile ∧
            entry.tournamentPlayerId = some opponent.id

section Readings

variable {db : Database} {t : Tournament} {m : Match}
  {left right : TournamentPlayer} {row row' : MatchPlayer}

theorem Faced.symm (hfaced : Faced db t m left right row row') :
    Faced db t m right left row' row where
  stored := hfaced.stored
  within := hfaced.within
  left := hfaced.right
  right := hfaced.left
  leftRow := hfaced.rightRow
  rightRow := hfaced.leftRow
  leftMatch := hfaced.rightMatch
  rightMatch := hfaced.leftMatch
  entrants := hfaced.entrants.symm
  sides := hfaced.sides.symm

theorem rosterLabel_of_linked (hdb : db.Consistent) {entry : TournamentPlayer}
    {profileId : Int} (hlinked : Linked db t entry profileId) :
    ∃ name, rosterLabelByProfile db t.id profileId = some (entry.id, name) := by
  unfold rosterLabelByProfile
  cases hfind : db.tournamentPlayers.rows.reverse.find? (fun entry =>
      entry.tournamentId = t.id && entry.profileId = some profileId) with
  | none =>
      have hnone := List.find?_eq_none.mp hfind entry
        (List.mem_reverse.mpr hlinked.mem)
      simp [hlinked.tournament, hlinked.profile] at hnone
  | some found =>
      have hmem := List.mem_reverse.mp (List.mem_of_find?_eq_some hfind)
      have hfound := List.find?_some hfind
      simp only [Bool.and_eq_true, decide_eq_true_eq] at hfound
      have hid := hdb.profile_unique found hmem entry hlinked.mem
        (hfound.1.trans hlinked.tournament.symm)
        (hfound.2.trans hlinked.profile.symm) (by simp [hfound.2])
      exact ⟨_, by rw [Option.map_some, hid]⟩

theorem two_le_length_dedup {values : List Int} {a b : Int} (ha : a ∈ values)
    (hb : b ∈ values) (hne : a ≠ b) : 2 ≤ values.dedup.length := by
  have hsub : [a, b] ⊆ values.dedup := by
    intro value hvalue
    simp only [List.mem_cons, List.not_mem_nil, or_false] at hvalue
    rcases hvalue with rfl | rfl
    · exact List.mem_dedup.mpr ha
    · exact List.mem_dedup.mpr hb
  have hnodup : [a, b].Nodup := by simp [hne]
  exact (List.subperm_of_subset hnodup hsub).length_le

theorem mem_linkedProfiles {entry : TournamentPlayer} {profileId : Int}
    (hlinked : Linked db t entry profileId) :
    profileId ∈ (db.tournamentPlayers.rows.filter
      (·.tournamentId = t.id)).filterMap (·.profileId) := by
  refine List.mem_filterMap.mpr ⟨entry, ?_, hlinked.profile⟩
  exact List.mem_filter.mpr ⟨hlinked.mem, by simpa using hlinked.tournament⟩

theorem mem_entrantRows :
    row ∈ entrantRows db t ↔ row ∈ db.matchPlayers.rows ∧
      (∃ m, db.matchTable.find? row.matchId = some m ∧ m.within t ∧
        m.state = .completed) ∧
          (rosterLabelByProfile db t.id row.profileId).isSome := by
  simp only [entrantRows, List.mem_filter, Bool.and_eq_true, Option.any_eq_true,
    decide_eq_true_eq]

/-- A linked entrant's row of a completed match of the window is such a row. -/
theorem mem_entrantRows_of_linked (hdb : db.Consistent)
    (hcompleted : m.state = .completed) (hstored : m ∈ db.matchTable.rows)
    (hwithin : m.within t) (hlinked : Linked db t left row.profileId)
    (hmem : row ∈ db.matchPlayers.rows) (hid : row.matchId = m.matchId) :
    row ∈ (entrantRows db t).filter (·.matchId = m.matchId) := by
  obtain ⟨name, hlabel⟩ := rosterLabel_of_linked hdb hlinked
  have hfind : db.matchTable.find? row.matchId = some m := by
    rw [hid]
    exact db.matchTable.find?_key hstored
  refine List.mem_filter.mpr ⟨mem_entrantRows.mpr
    ⟨hmem, ⟨m, hfind, hwithin, hcompleted⟩, ?_⟩, by simpa using hid⟩
  rw [hlabel]
  rfl

theorem mem_candidateMatchIds_iff (hdb : db.Consistent)
    (hfaced : Faced db t m left right row row') :
    m.matchId ∈ candidateMatchIds db t ↔ m.state = .completed := by
  constructor
  · intro hmem
    have hids := List.mem_dedup.mp (List.mem_of_mem_filter hmem)
    obtain ⟨other, hother, hid⟩ := List.mem_map.mp hids
    obtain ⟨_, ⟨found, hfound, _, hcompleted⟩, _⟩ := mem_entrantRows.mp hother
    rw [hid, db.matchTable.find?_key hfaced.stored] at hfound
    cases hfound
    exact hcompleted
  · intro hcompleted
    have hleft := mem_entrantRows_of_linked hdb hcompleted hfaced.stored
      hfaced.within hfaced.left hfaced.leftRow hfaced.leftMatch
    have hright := mem_entrantRows_of_linked hdb hcompleted hfaced.stored
      hfaced.within hfaced.right hfaced.rightRow hfaced.rightMatch
    refine List.mem_filter.mpr ⟨List.mem_dedup.mpr (List.mem_map.mpr
      ⟨row, List.mem_of_mem_filter hleft, hfaced.leftMatch⟩), ?_⟩
    simp only [Bool.and_eq_true, decide_eq_true_eq]
    exact ⟨two_le_length_dedup (List.mem_map_of_mem hleft)
        (List.mem_map_of_mem hright) hfaced.entrants,
      two_le_length_dedup (List.mem_map_of_mem hleft)
        (List.mem_map_of_mem hright) hfaced.sides⟩

theorem feedSelects_iff (hdb : db.Consistent)
    (hfaced : Faced db t m left right row row') :
    FeedSelects db t m.matchId ↔ m.state = .completed := by
  have htwo : ¬(linkedProfiles db t).length < 2 :=
    not_lt.mpr (two_le_length_dedup
      (mem_linkedProfiles hfaced.left) (mem_linkedProfiles hfaced.right)
        hfaced.entrants)
  rw [← mem_candidateMatchIds_iff hdb hfaced, FeedSelects, headToHeadMatches,
    if_neg htwo]
  constructor
  · rintro ⟨found, hmem, hid⟩
    have hkept := (List.mem_filter.mp ((mem_sortBy _).mp hmem)).2
    rw [hid] at hkept
    exact List.contains_iff_mem.mp hkept
  · intro hmem
    refine ⟨m, (mem_sortBy _).mpr (List.mem_filter.mpr ⟨hfaced.stored, ?_⟩), rfl⟩
    exact List.contains_iff_mem.mpr hmem

/-- The game a record has of that match is the player's row, with its
outcome. -/
theorem windowGame_row (hfaced : Faced db t m left right row row') {game : Game}
    (hgame : game ∈ windowGames db t row.profileId)
    (hid : game.row.matchId = m.matchId) :
    game.row = row ∧ row.outcome.isSome := by
  have hdecided := (mem_sortBy _).mp (List.mem_of_mem_filter hgame)
  obtain ⟨hmem, hkept⟩ := List.mem_filter.mp hdecided
  obtain ⟨found, hfound, hjoin⟩ := List.mem_filterMap.mp hmem
  obtain ⟨stored, _, rfl⟩ := Option.map_eq_some_iff.mp hjoin
  obtain ⟨hstored, hprofile⟩ := List.mem_filter.mp hfound
  have hsame : found = row := by
    apply db.matchPlayers.eq_of_key_eq hstored hfaced.leftRow
    rw [MatchPlayer.key, MatchPlayer.key, hfaced.leftMatch, ← hid,
      of_decide_eq_true hprofile]
  simp only [Bool.and_eq_true] at hkept
  exact ⟨hsame, hsame ▸ hkept.2⟩

theorem countedIn_iff (hfaced : Faced db t m left right row row') :
    CountedIn db t row.profileId m.matchId ↔ row.outcome.isSome := by
  have hfind : db.matchTable.find? row.matchId = some m := by
    rw [hfaced.leftMatch]
    exact db.matchTable.find?_key hfaced.stored
  have hwithin := hfaced.within
  simp only [Match.within, Bool.and_eq_true, decide_eq_true_eq] at hwithin
  constructor
  · rintro ⟨game, hgame, hid⟩
    exact (windowGame_row hfaced hgame hid).2
  · intro houtcome
    refine ⟨⟨row, m.played⟩, List.mem_filter.mpr ⟨(mem_sortBy _).mpr
      (List.mem_filter.mpr ⟨List.mem_filterMap.mpr ⟨row, ?_, ?_⟩, ?_⟩), ?_⟩,
      hfaced.leftMatch⟩
    · exact List.mem_filter.mpr ⟨hfaced.leftRow, by simp⟩
    · rw [joinMatch, hfind]
      rfl
    · exact Bool.and_eq_true_iff.mpr ⟨decide_eq_true hwithin.1, houtcome⟩
    · exact hwithin.2

theorem listsOpponent_of_faced (hdb : db.Consistent) (names : Dict Int String)
    (hfaced : Faced db t m left right row row') :
    ListsOpponent db t names row.profileId m.matchId right row'.profileId := by
  intro place game hplace hid
  have hgame : game ∈ windowGames db t row.profileId :=
    List.mem_of_mem_take (List.mem_of_getElem? hplace)
  have hrow := (windowGame_row hfaced hgame hid).1
  have hrecord : (tournamentRecordByProfile db t names
      row.profileId).recentMatchups =
        ((windowGames db t row.profileId).take recentResultsLimit).map fun game =>
          buildRecentMatchup game (matchupOpponents db t names game) names := by
    unfold tournamentRecordByProfile
    cases windowGames db t row.profileId with
    | nil => rfl
    | cons newest older => rfl
  obtain ⟨name, hlabel⟩ := rosterLabel_of_linked hdb hfaced.right
  have hopponent : row' ∈ opponentsOf db game := by
    rw [opponentsOf, mem_sortBy]
    refine List.mem_filter.mpr ⟨hfaced.rightRow, ?_⟩
    simp [hrow, hfaced.leftMatch, hfaced.rightMatch, hfaced.entrants.symm,
      hfaced.sides.symm]
  refine ⟨_, by rw [hrecord, List.getElem?_map, hplace]; rfl, _,
    List.mem_map_of_mem hopponent, rfl, ?_⟩
  simp [hlabel]

end Readings

end LiveStandings
