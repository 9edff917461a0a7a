/-
The reads of matches.  The list, the detail, the recent matches of a player and
the live feed scope a match to the roster in three ways; they agree.
-/
import LiveStandings.EntrantData
import LiveStandings.Management
import LiveStandings.Library.Pages

namespace LiveStandings

open KeyedTable PyJson Ranking Pages

/-- `MatchPlayerRead`. -/
structure MatchPlayerRead where
  profileId : Int
  civilizationId : Int
  teamId : Int
  outcome : Option MatchOutcome
  oldRating : Option Int
  newRating : Option Int
  xpGained : Int
deriving Repr, DecidableEq

/-- `MatchRead`. -/
structure MatchRead where
  matchId : Int
  mapName : String
  matchtypeId : Int
  leaderboardId : Option Int
  startedAt : Instant
  completedAt : Option Instant
  description : Option String
  state : MatchState
  updatedAt : Instant
  players : List MatchPlayerRead
deriving Repr, DecidableEq

/-- `MatchDetail`. -/
structure MatchDetail extends MatchRead where
  lastPolledAt : Option Instant
deriving Repr, DecidableEq

def matchPlayerRead (row : MatchPlayer) : MatchPlayerRead where
  profileId := row.profileId
  civilizationId := row.civilizationId
  teamId := row.teamId
  outcome := row.outcome
  oldRating := row.oldRating
  newRating := row.newRating
  xpGained := row.xpGained

/-- `Match.players`. -/
def playersOf (db : Database) (m : Match) : List MatchPlayer :=
  db.matchPlayers.rows.filter (·.matchId = m.matchId)

/-- `MatchRead.model_validate`. -/
def matchRead (db : Database) (m : Match) : MatchRead where
  matchId := m.matchId
  mapName := m.mapName
  matchtypeId := m.matchtypeId
  leaderboardId := m.leaderboardId
  startedAt := m.startedAt
  completedAt := m.completedAt
  description := m.description
  state := m.state
  updatedAt := m.updatedAt
  players := (playersOf db m).map matchPlayerRead

/-- `profile_id IN (SELECT profile_id FROM tournament_players ...)`; a row
without a profile matches none. -/
def onRoster (db : Database) (t : Tournament) (profileId : Int) : Bool :=
  db.tournamentPlayers.rows.any fun entry =>
    entry.tournamentId = t.id && entry.profileId = some profileId

/-- `match_id IN (SELECT match_id FROM match_players WHERE ...)`. -/
def hasPlayer (db : Database) (keep : Int → Bool) (m : Match) : Bool :=
  db.matchPlayers.rows.any fun row =>
    row.matchId = m.matchId && keep row.profileId

/-- The optional filters of `list_matches`. -/
structure MatchFilter where
  profileId : Option Int
  leaderboardId : Option Int
  state : Option MatchState

def MatchFilter.admits (db : Database) (filter : MatchFilter) (m : Match) :
    Bool :=
  filter.profileId.all (fun profileId => hasPlayer db (· = profileId) m) &&
    filter.leaderboardId.all (fun leaderboardId =>
      m.leaderboardId = some leaderboardId) &&
      filter.state.all (fun state => m.state = state)

/-- `ORDER BY started_at DESC`. -/
def newestFirst (m : Match) : Int := -m.startedAt

/-- The envelope of the three lists. -/
def matchEnvelope (db : Database) (rows : List Match) :
    ListEnvelope MatchRead where
  lastPolledAt := computeLastPolledAt (rows.map fun m => some m.updatedAt)
  items := rows.map (matchRead db)

/-- `list_matches`. -/
def listMatches (ties : TieOrder Match) (db : Database) (t : Tournament)
    (filter : MatchFilter) (limit : Nat) : ListEnvelope MatchRead :=
  matchEnvelope db (page ties newestFirst limit
    (db.matchTable.rows.filter fun m =>
      hasPlayer db (onRoster db t) m && filter.admits db m))

/-- What `get_match` answers, with its `Cache-Control`. -/
structure MatchResponse where
  detail : MatchDetail
  cacheControl : String
deriving Repr, DecidableEq

/-- `get_match`. -/
def getMatch (db : Database) (t : Tournament) (matchId : Int) :
    Except Raised MatchResponse :=
  match db.matchTable.find? matchId with
  | none => .error (httpException 404 "Match not found" final_404)
  | some m =>
      if (playersOf db m).any fun row => onRoster db t row.profileId then
        .ok {
          detail := { matchRead db m with lastPolledAt := some m.updatedAt }
          cacheControl :=
            if m.state = .completed then
              "public, s-maxage=60, max-age=0, must-revalidate"
            else "no-store" }
      else .error (httpException 404 "Match not found" final_404)

/-- `get_live`. -/
def getLive (db : Database) (t : Tournament) : ListEnvelope MatchRead :=
  matchEnvelope db (sortBy newestFirst (db.matchTable.rows.filter fun m =>
    liveMatchStates.contains m.state &&
      db.liveMatchPlayers.rows.any fun link =>
        link.matchId = m.matchId && onRoster db t link.profileId))

/-- The query of `get_player`: a join, with a row for each player row of the
profile. -/
def recentMatches (ties : TieOrder Match) (db : Database) (profileId : Int)
    (matchLimit : Nat) : List MatchRead :=
  (page ties newestFirst matchLimit (db.matchTable.rows.flatMap fun m =>
    (db.matchPlayers.rows.filter fun row =>
      row.matchId = m.matchId && row.profileId = profileId).map
        fun _ => m)).map (matchRead db)

section Reads

variable {ties ties' : TieOrder Match} {db : Database} {t : Tournament}
  {m : Match} {filter : MatchFilter}

theorem hasPlayer_iff {keep : Int → Bool} :
    hasPlayer db keep m = true ↔
      ∃ row ∈ db.matchPlayers.rows, row.matchId = m.matchId ∧
        keep row.profileId = true := by
  simp [hasPlayer]

theorem any_playersOf (keep : Int → Bool) :
    ((playersOf db m).any fun row => keep row.profileId) =
      hasPlayer db keep m := by
  rw [playersOf, List.any_filter, hasPlayer]

theorem onRoster_iff {profileId : Int} :
    onRoster db t profileId = true ↔
      ∃ entry ∈ db.tournamentPlayers.rows, entry.tournamentId = t.id ∧
        entry.profileId = some profileId := by
  simp [onRoster]

theorem mem_listMatches {limit : Nat} {item : MatchRead}
    (hitem : item ∈ (listMatches ties db t filter limit).items) :
    ∃ m ∈ db.matchTable.rows, item = matchRead db m ∧
      hasPlayer db (onRoster db t) m = true ∧ filter.admits db m = true := by
  obtain ⟨m, hm, rfl⟩ := List.mem_map.mp hitem
  obtain ⟨hstored, hkeep⟩ := List.mem_filter.mp (mem_of_mem_page hm)
  obtain ⟨hroster, hadmits⟩ := Bool.and_eq_true_iff.mp hkeep
  exact ⟨m, hstored, rfl, hroster, hadmits⟩

theorem getMatch_eq_ok_iff {matchId : Int} {response : MatchResponse} :
    getMatch db t matchId = .ok response ↔
      ∃ m ∈ db.matchTable.rows, m.matchId = matchId ∧
        hasPlayer db (onRoster db t) m = true ∧
        response = {
          detail := { matchRead db m with lastPolledAt := some m.updatedAt }
          cacheControl :=
            if m.state = .completed then
              "public, s-maxage=60, max-age=0, must-revalidate"
            else "no-store" } := by
  unfold getMatch
  constructor
  · intro hget
    split at hget
    · cases hget
    · next m hfind =>
        split at hget
        · next hroster =>
            cases hget
            rw [any_playersOf] at hroster
            exact ⟨m, db.matchTable.mem_of_find? hfind,
              db.matchTable.key_of_find? hfind, hroster, rfl⟩
        · cases hget
  · rintro ⟨m, hm, rfl, hroster, rfl⟩
    rw [db.matchTable.find?_key hm]
    simp only
    rw [any_playersOf, if_pos hroster]

theorem playerRows_eq (db : Database) (m : Match) (profileId : Int) :
    ((db.matchPlayers.rows.filter fun row =>
      row.matchId = m.matchId && row.profileId = profileId).map fun _ => m) =
        if hasPlayer db (· = profileId) m then [m] else [] := by
  have hkey := filter_key_eq db.matchPlayers.keys_nodup (m.matchId, profileId)
  have hfilter : (db.matchPlayers.rows.filter fun row =>
      row.matchId = m.matchId && row.profileId = profileId) =
        db.matchPlayers.rows.filter fun row =>
          decide (row.key = (m.matchId, profileId)) := by
    refine List.filter_congr fun row _ => ?_
    simp [MatchPlayer.key]
  rw [hfilter, hkey]
  cases hfind : db.matchPlayers.rows.find? fun row =>
      decide (row.key = (m.matchId, profileId)) with
  | none =>
      rw [if_neg]
      · rfl
      · intro hplayer
        obtain ⟨row, hrow, hmatch, hprofile⟩ := hasPlayer_iff.mp hplayer
        refine List.find?_eq_none.mp hfind row hrow (decide_eq_true ?_)
        exact Prod.ext hmatch (of_decide_eq_true hprofile)
  | some row =>
      have hfound := List.find?_some hfind
      have hrow := Prod.mk.inj (of_decide_eq_true hfound)
      rw [if_pos]
      · rfl
      · exact hasPlayer_iff.mpr ⟨row, List.mem_of_find?_eq_some hfind, hrow.1,
          decide_eq_true hrow.2⟩

theorem flatMap_playerRows (db : Database) (profileId : Int)
    (rows : List Match) :
    (rows.flatMap fun m => (db.matchPlayers.rows.filter fun row =>
      row.matchId = m.matchId && row.profileId = profileId).map fun _ => m) =
        rows.filter (hasPlayer db (· = profileId)) := by
  induction rows with
  | nil => rfl
  | cons m rows ih =>
      rw [List.flatMap_cons, playerRows_eq, ih, List.filter_cons]
      split <;> rfl

/-- A filter judges a match by what the list shows of it. -/
def MatchFilter.shows (filter : MatchFilter) (item : MatchRead) : Bool :=
  filter.profileId.all (fun profileId =>
    item.players.any fun player => player.profileId = profileId) &&
    filter.leaderboardId.all (fun leaderboardId =>
      item.leaderboardId = some leaderboardId) &&
      filter.state.all (fun state => item.state = state)

theorem shows_matchRead (filter : MatchFilter) (m : Match) :
    filter.shows (matchRead db m) = filter.admits db m := by
  have hplayer (profileId : Int) :
      ((matchRead db m).players.any fun player =>
        decide (player.profileId = profileId)) =
          hasPlayer db (· = profileId) m := by
    rw [← any_playersOf]
    exact List.any_map
  unfold MatchFilter.shows MatchFilter.admits
  simp only [hplayer]
  rfl

/-- No filter at all. -/
def MatchFilter.every : MatchFilter := ⟨none, none, none⟩

/-- The rows of the unfiltered list. -/
def rosterMatches (db : Database) (t : Tournament) : List Match :=
  db.matchTable.rows.filter (hasPlayer db (onRoster db t))

theorem listMatches_every (ties : TieOrder Match) (db : Database)
    (t : Tournament) (limit : Nat) :
    (listMatches ties db t .every limit).items =
      (page ties newestFirst limit (rosterMatches db t)).map
        (matchRead db) := by
  have hrows : (db.matchTable.rows.filter fun m =>
      hasPlayer db (onRoster db t) m && MatchFilter.every.admits db m) =
        rosterMatches db t :=
    List.filter_congr fun m _ => Bool.and_true _
  rw [listMatches, hrows]
  rfl

theorem listMatches_eq (ties : TieOrder Match) (db : Database) (t : Tournament)
    (filter : MatchFilter) (limit : Nat) :
    (listMatches ties db t filter limit).items =
      (page ties newestFirst limit ((rosterMatches db t).filter
        (filter.admits db))).map (matchRead db) := by
  have hrows : (db.matchTable.rows.filter fun m =>
      hasPlayer db (onRoster db t) m && filter.admits db m) =
        (rosterMatches db t).filter (filter.admits db) := by
    rw [rosterMatches, List.filter_filter]
    exact List.filter_congr fun m _ => Bool.and_comm _ _
  rw [listMatches, hrows]
  rfl

/-- When the matches of a list started. -/
def starts (items : List MatchRead) : List Instant := items.map (·.startedAt)

theorem starts_map_matchRead (rows : List Match) :
    starts (rows.map (matchRead db)) = (rows.map newestFirst).map (-·) := by
  rw [starts, List.map_map, List.map_map]
  exact List.map_congr_left fun m _ => (neg_neg m.startedAt).symm

/-- No two matches with such a player started at one instant. -/
def OneAtATime (db : Database) (keep : Int → Bool) : Prop :=
  ∀ left ∈ db.matchTable.rows, ∀ right ∈ db.matchTable.rows,
    hasPlayer db keep left = true → hasPlayer db keep right = true →
      left.startedAt = right.startedAt → left = right

/-- Where nobody started two at once, `ORDER BY` tells the matches apart. -/
theorem OneAtATime.injective {keep : Int → Bool} (hone : OneAtATime db keep) :
    ∀ left ∈ db.matchTable.rows.filter (hasPlayer db keep),
      ∀ right ∈ db.matchTable.rows.filter (hasPlayer db keep),
        newestFirst left = newestFirst right → left = right := by
  intro left hleft right hright hkey
  obtain ⟨hstored, hplayer⟩ := List.mem_filter.mp hleft
  obtain ⟨hstored', hplayer'⟩ := List.mem_filter.mp hright
  exact hone left hstored right hstored' hplayer hplayer' (neg_inj.mp hkey)

/-- A filtered list begins with what the filter keeps of the whole list, up to
matches that started at one instant. -/
theorem filter_listMatches_extends (ties ties' : TieOrder Match)
    (db : Database) (t : Tournament) (filter : MatchFilter) (limit : Nat) :
    starts ((listMatches ties db t .every limit).items.filter filter.shows) <+:
        starts (listMatches ties' db t filter limit).items ∧
      (OneAtATime db (onRoster db t) →
        (listMatches ties db t .every limit).items.filter filter.shows <+:
          (listMatches ties' db t filter limit).items) := by
  have hshows : filter.shows ∘ matchRead db = filter.admits db :=
    funext (shows_matchRead filter)
  rw [listMatches_every, listMatches_eq, List.filter_map, hshows]
  refine ⟨?_, fun hone => ?_⟩
  · rw [starts_map_matchRead, starts_map_matchRead]
    exact (map_key_filter_page_extends ties ties' _ _ limit _).map _
  · exact (filter_page_extends_of_injective ties ties' _ limit
      hone.injective).map _

/-- A longer list continues a shorter one, up to matches that started at one
instant. -/
theorem listMatches_extends (ties ties' : TieOrder Match) (db : Database)
    (t : Tournament) (filter : MatchFilter) {limit limit' : Nat}
    (hlimit : limit ≤ limit') :
    starts (listMatches ties db t filter limit).items <+:
        starts (listMatches ties' db t filter limit').items ∧
      (OneAtATime db (onRoster db t) →
        (listMatches ties db t filter limit).items <+:
          (listMatches ties' db t filter limit').items) := by
  rw [listMatches_eq, listMatches_eq]
  refine ⟨?_, fun hone => ?_⟩
  · rw [starts_map_matchRead, starts_map_matchRead]
    exact (map_key_page_extends ties ties' _ hlimit _).map _
  · refine (page_extends ties ties' hlimit ?_).map _
    intro left hleft right hright
    exact hone.injective left (List.mem_of_mem_filter hleft) right
      (List.mem_of_mem_filter hright)

/-- The recent matches of a player on the roster are those of the list, if he
started no two at once or the two queries order them alike. -/
theorem recentMatches_agree (ties ties' : TieOrder Match) {profileId : Int}
    (hroster : onRoster db t profileId = true) (limit : Nat) :
    starts (recentMatches ties db profileId limit) =
        starts (listMatches ties' db t ⟨some profileId, none, none⟩
          limit).items ∧
      (ties = ties' ∨ OneAtATime db (· = profileId) →
        recentMatches ties db profileId limit =
          (listMatches ties' db t ⟨some profileId, none, none⟩
            limit).items) := by
  have hrows : (rosterMatches db t).filter
      (MatchFilter.admits db ⟨some profileId, none, none⟩) =
        db.matchTable.rows.filter (hasPlayer db (· = profileId)) := by
    rw [rosterMatches, List.filter_filter]
    refine List.filter_congr fun m _ => ?_
    cases hplayer : hasPlayer db (· = profileId) m with
    | false => simp [MatchFilter.admits, hplayer]
    | true =>
        obtain ⟨row, hrow, hmatch, hprofile⟩ := hasPlayer_iff.mp hplayer
        have hany : hasPlayer db (onRoster db t) m = true :=
          hasPlayer_iff.mpr ⟨row, hrow, hmatch,
            of_decide_eq_true hprofile ▸ hroster⟩
        simp [MatchFilter.admits, hplayer, hany]
  rw [recentMatches, flatMap_playerRows, listMatches_eq, hrows]
  refine ⟨?_, ?_⟩
  · rw [starts_map_matchRead, starts_map_matchRead, map_key_page, map_key_page]
  · rintro (rfl | hone)
    · rfl
    · rw [page_of_injective ties ties' limit hone.injective]

end Reads

/-- The reads of matches agree, however each query orders matches that started
at one instant.  What the list shows the detail shows; what the detail shows
the list shows unless it is full of matches that started no earlier; a filter
judges by what is shown.  A filtered list begins with what the whole list has
of it, a longer list with the shorter one, and the recent matches of a player
are the list filtered by his profile: up to ties, and exactly so where there
are none. -/
theorem match_reads_agree (ties ties' : TieOrder Match) (db : Database)
    (t : Tournament) (filter : MatchFilter) {limit limit' : Nat}
    (hlimit : limit ≤ limit') {profileId : Int}
    (hroster : onRoster db t profileId = true) :
    (∀ item ∈ (listMatches ties db t filter limit).items,
      filter.shows item = true ∧ ∃ response,
        getMatch db t item.matchId = .ok response ∧
          response.detail.toMatchRead = item) ∧
      (∀ matchId response, getMatch db t matchId = .ok response →
        response.detail.toMatchRead ∈
            (listMatches ties db t .every limit).items ∨
          (listMatches ties db t .every limit).items.length = limit ∧
            ∀ item ∈ (listMatches ties db t .every limit).items,
              response.detail.startedAt ≤ item.startedAt) ∧
      (starts ((listMatches ties db t .every limit).items.filter
            filter.shows) <+:
          starts (listMatches ties' db t filter limit).items ∧
        (OneAtATime db (onRoster db t) →
          (listMatches ties db t .every limit).items.filter filter.shows <+:
            (listMatches ties' db t filter limit).items)) ∧
      (starts (listMatches ties db t filter limit).items <+:
          starts (listMatches ties' db t filter limit').items ∧
        (OneAtATime db (onRoster db t) →
          (listMatches ties db t filter limit).items <+:
            (listMatches ties' db t filter limit').items)) ∧
      (starts (recentMatches ties db profileId limit) =
          starts (listMatches ties' db t ⟨some profileId, none, none⟩
            limit).items ∧
        (ties = ties' ∨ OneAtATime db (· = profileId) →
          recentMatches ties db profileId limit =
            (listMatches ties' db t ⟨some profileId, none, none⟩
              limit).items)) := by
  refine ⟨fun item hitem => ?_, fun matchId response hget => ?_,
    filter_listMatches_extends ties ties' db t filter limit,
    listMatches_extends ties ties' db t filter hlimit,
    recentMatches_agree ties ties' hroster limit⟩
  · obtain ⟨m, hm, rfl, hplayer, hadmits⟩ := mem_listMatches hitem
    exact ⟨(shows_matchRead filter m).trans hadmits, _,
      getMatch_eq_ok_iff.mpr ⟨m, hm, rfl, hplayer, rfl⟩, rfl⟩
  · obtain ⟨m, hm, rfl, hplayer, rfl⟩ := getMatch_eq_ok_iff.mp hget
    have hrow : m ∈ rosterMatches db t := List.mem_filter.mpr ⟨hm, hplayer⟩
    rw [listMatches_every]
    rcases mem_page_or_full ties newestFirst limit hrow with
      hin | ⟨hfull, hlater⟩
    · exact Or.inl (List.mem_map_of_mem hin)
    · refine Or.inr ⟨List.length_map _ |>.trans hfull, fun item hitem => ?_⟩
      obtain ⟨other, hother, rfl⟩ := List.mem_map.mp hitem
      exact neg_le_neg_iff.mp (hlater other hother)

namespace MatchReadsWitness

def game (id : Int) (state : MatchState) : Match where
  matchId := id
  mapName := "Arabia"
  matchtypeId := 6
  leaderboardId := some 3
  startedAt := id
  completedAt := none
  description := none
  state := state
  updatedAt := id

def player (matchId profileId : Int) : MatchPlayer where
  matchId := matchId
  profileId := profileId
  civilizationId := 5
  teamId := 0
  outcome := none
  oldRating := none
  newRating := none
  xpGained := 0

def cup : Tournament where
  id := 1
  slug := "cup"
  name := "Cup"
  leaderboardId := 3
  rankBy := .peakRating
  startDate := none
  endDate := none
  prizePoolCents := none
  hostStreamUrls := []
  presentation := []
  createdAt := 0

/-- Two matches of a player on the roster, one of a stranger. -/
def stored : Database :=
  { Database.empty with
    matchTable :=
      ⟨[game 7 .completed, game 8 .inProgress, game 9 .completed], by decide⟩
    matchPlayers := ⟨[player 7 4, player 8 4, player 9 6], by decide⟩
    tournaments := ⟨[cup], by decide⟩
    tournamentPlayers := ⟨[⟨2, 1, some 4, "Viper", []⟩], by decide⟩ }

end MatchReadsWitness

open MatchReadsWitness in
/-- He started no two at once, so the order of the rows does not matter. -/
theorem match_reads_agree_stored :
    recentMatches ⟨List.reverse, List.reverse_perm⟩ stored 4 1 =
        (listMatches .stored stored cup ⟨some 4, none, none⟩ 1).items ∧
      (recentMatches .stored stored 4 1).map (·.matchId) = [8] :=
  ⟨(@match_reads_agree ⟨List.reverse, List.reverse_perm⟩ .stored stored cup
    .every 1 2 (by decide) 4 (by decide)).2.2.2.2.2
      (Or.inr (by unfold OneAtATime; decide)), by decide⟩

section Live

variable {db : Database} {t : Tournament}

/-- A link to a live match of a profile. -/
def IsLiveLink (db : Database) (profileId matchId : Int) : Prop :=
  ∃ link ∈ db.liveMatchPlayers.rows, link.profileId = profileId ∧
    link.matchId = matchId ∧ ∃ m ∈ db.matchTable.rows, m.matchId = matchId ∧
      liveMatchStates.contains m.state = true

/-- The links of a profile to live matches. -/
def liveLinks (db : Database) (profileId : Int) : List LiveMatchPlayer :=
  db.liveMatchPlayers.rows.filter fun link =>
    link.profileId = profileId &&
      (db.matchTable.find? link.matchId).any fun row =>
        liveMatchStates.contains row.state

theorem mem_liveLinks {profileId : Int} {link : LiveMatchPlayer} :
    link ∈ liveLinks db profileId ↔
      link ∈ db.liveMatchPlayers.rows ∧ link.profileId = profileId ∧
        ∃ m ∈ db.matchTable.rows, m.matchId = link.matchId ∧
          liveMatchStates.contains m.state = true := by
  rw [liveLinks, List.mem_filter, Bool.and_eq_true_iff, decide_eq_true_iff,
    Option.any_eq_true]
  refine and_congr_right fun _ => and_congr_right fun _ => ?_
  constructor
  · rintro ⟨m, hfind, hlive⟩
    exact ⟨m, db.matchTable.mem_of_find? hfind,
      db.matchTable.key_of_find? hfind, hlive⟩
  · rintro ⟨m, hm, hid, hlive⟩
    exact ⟨m, db.matchTable.find?_eq_some_iff.mpr ⟨hm, hid⟩, hlive⟩

theorem liveMatchByProfile_eq_some_iff {profileId matchId : Int} :
    liveMatchByProfile db profileId = some matchId ↔
      IsLiveLink db profileId matchId ∧
        ∀ other, IsLiveLink db profileId other → other ≤ matchId := by
  have hinj : ∀ left ∈ liveLinks db profileId,
      ∀ right ∈ liveLinks db profileId,
        left.matchId = right.matchId → left = right := by
    intro left hleft right hright hmatch
    obtain ⟨hmem, hprofile, -⟩ := mem_liveLinks.mp hleft
    obtain ⟨hmem', hprofile', -⟩ := mem_liveLinks.mp hright
    exact db.liveMatchPlayers.eq_of_key_eq hmem hmem'
      (Prod.ext hmatch (hprofile.trans hprofile'.symm))
  have hlast (last : LiveMatchPlayer) :=
    @getLast?_sortBy_eq_some_iff _ _ _ (·.matchId) _ last hinj
  have hshown : liveMatchByProfile db profileId = some matchId ↔
      ∃ last, (sortBy (·.matchId) (liveLinks db profileId)).getLast? =
        some last ∧ last.matchId = matchId := Option.map_eq_some_iff
  rw [hshown]
  constructor
  · rintro ⟨last, hfound, rfl⟩
    obtain ⟨hmem, hmax⟩ := (hlast last).mp hfound
    obtain ⟨hlink, hprofile, hmatch⟩ := mem_liveLinks.mp hmem
    refine ⟨⟨last, hlink, hprofile, rfl, hmatch⟩, ?_⟩
    rintro other ⟨link, hlink, hprofile, rfl, hmatch⟩
    exact hmax link (mem_liveLinks.mpr ⟨hlink, hprofile, hmatch⟩)
  · rintro ⟨⟨link, hlink, hprofile, rfl, hmatch⟩, hmax⟩
    refine ⟨link, (hlast link).mpr
      ⟨mem_liveLinks.mpr ⟨hlink, hprofile, hmatch⟩, fun other hother => ?_⟩,
      rfl⟩
    obtain ⟨hlink', hprofile', hmatch'⟩ := mem_liveLinks.mp hother
    exact hmax other.matchId ⟨other, hlink', hprofile', rfl, hmatch'⟩

theorem liveMatchByProfile_isSome {profileId matchId : Int}
    (hlink : IsLiveLink db profileId matchId) :
    (liveMatchByProfile db profileId).isSome := by
  obtain ⟨link, hmem, hprofile, rfl, hmatch⟩ := hlink
  have hne := List.ne_nil_of_mem ((mem_sortBy LiveMatchPlayer.matchId).mpr
    (mem_liveLinks.mpr ⟨hmem, hprofile, hmatch⟩))
  obtain ⟨last, hlast⟩ := Option.isSome_iff_exists.mp
    (List.getLast?_isSome.mpr hne)
  exact Option.isSome_iff_exists.mpr
    ⟨last.matchId, Option.map_eq_some_iff.mpr ⟨last, hlast, rfl⟩⟩

theorem mem_getLive {item : MatchRead} :
    item ∈ (getLive db t).items ↔
      ∃ m ∈ db.matchTable.rows, item = matchRead db m ∧
        liveMatchStates.contains m.state = true ∧
        ∃ link ∈ db.liveMatchPlayers.rows, link.matchId = m.matchId ∧
          onRoster db t link.profileId = true := by
  simp only [getLive, matchEnvelope, List.mem_map, mem_sortBy,
    List.mem_filter, Bool.and_eq_true, List.any_eq_true, decide_eq_true_eq]
  constructor
  · rintro ⟨m, ⟨hm, hlive, hlink⟩, rfl⟩
    exact ⟨m, hm, rfl, hlive, hlink⟩
  · rintro ⟨m, hm, rfl, hlive, hlink⟩
    exact ⟨m, ⟨hm, hlive, hlink⟩, rfl⟩

theorem mem_getLive_of_isLiveLink {profileId matchId : Int}
    (hlink : IsLiveLink db profileId matchId)
    (hroster : onRoster db t profileId = true) :
    ∃ item ∈ (getLive db t).items, item.matchId = matchId := by
  obtain ⟨link, hmem, rfl, rfl, m, hm, hid, hlive⟩ := hlink
  exact ⟨matchRead db m,
    mem_getLive.mpr ⟨m, hm, rfl, hlive, link, hmem, hid.symm, hroster⟩, hid⟩

theorem liveMatchId_standingRow (names : Dict Int String)
    (frozen : Option (Dict Int (Option Int))) (row : RosterRow) :
    (standingRow db t names frozen row).liveMatchId =
        (row.player.bind fun player => liveMatchByProfile db player.profileId) ∧
      (standingRow db t names frozen row).inMatch =
        (standingRow db t names frozen row).liveMatchId.isSome := by
  unfold standingRow
  cases row.player with
  | none => exact ⟨rfl, rfl⟩
  | some player => exact ⟨rfl, rfl⟩

end Live

/-- The live feed and the table agree.  A row of the table is in a match when
it names one, and the feed has that match; and a match of the feed has an
entrant in it, who is in a match in the table too if he is listed there: in
that one, or in a later one that he is in as well. -/
theorem live_reads_agree (db : Database) (t : Tournament)
    (names : Dict Int String) (now : Instant) :
    (∀ row ∈ (getStandings db t names now).items,
      (row.inMatch = row.liveMatchId.isSome) ∧
        ∀ matchId, row.liveMatchId = some matchId →
          ∃ item ∈ (getLive db t).items, item.matchId = matchId) ∧
      ∀ item ∈ (getLive db t).items, ∃ entry ∈ rosterEntries db t,
        ∃ profileId, entry.profileId = some profileId ∧
          IsLiveLink db profileId item.matchId ∧
          ∀ data, entrantData db t names now entry = some data →
            ∃ matchId, data.liveMatchId = some matchId ∧
              item.matchId ≤ matchId ∧ IsLiveLink db profileId matchId := by
  constructor
  · intro row hrow
    obtain ⟨listed, hlisted, rfl⟩ := List.mem_map.mp hrow
    obtain ⟨hshown, hin⟩ := @liveMatchId_standingRow db t names
      (frozenStandings db t now) listed
    refine ⟨hin, fun matchId hmatch => ?_⟩
    rw [hshown] at hmatch
    obtain ⟨player, hplayer, hlive⟩ := Option.bind_eq_some_iff.mp hmatch
    obtain ⟨entry, hentry, htournament, rfl, -⟩ :=
      mem_rosterRows.mp (mem_orderedRows.mp hlisted)
    obtain ⟨profileId, hprofile, hfind⟩ := Option.bind_eq_some_iff.mp hplayer
    rw [db.players.key_of_find? hfind] at hlive
    exact mem_getLive_of_isLiveLink (liveMatchByProfile_eq_some_iff.mp hlive).1
      (onRoster_iff.mpr ⟨entry, hentry, htournament, hprofile⟩)
  · intro item hitem
    obtain ⟨m, hm, rfl, hlive, link, hlink, hmatch, hroster⟩ :=
      mem_getLive.mp hitem
    obtain ⟨entry, hentry, htournament, hprofile⟩ := onRoster_iff.mp hroster
    have hrostered := mem_rosterEntries.mpr ⟨hentry, htournament⟩
    have hlinked : IsLiveLink db link.profileId m.matchId :=
      ⟨link, hlink, rfl, hmatch, m, hm, rfl, hlive⟩
    refine ⟨entry, hrostered, link.profileId, hprofile, hlinked,
      fun data hdata => ?_⟩
    rw [entrantData_eq names now hrostered] at hdata
    split at hdata
    · next hvisible =>
        cases hdata
        have hplayer : (db.players.find? link.profileId).isSome := by
          simpa [RosterRow.visible, rosterRow, hprofile] using hvisible
        rw [data_standingRow names now hrostered hprofile hplayer]
        obtain ⟨shown, hshown⟩ := Option.isSome_iff_exists.mp
          (liveMatchByProfile_isSome hlinked)
        obtain ⟨hin, hlast⟩ := liveMatchByProfile_eq_some_iff.mp hshown
        exact ⟨shown, hshown, hlast m.matchId hlinked, hin⟩
    · cases hdata

end LiveStandings
