/-
The reads of the roster.  The list and the detail build an entry each in its
own way, and so does the table; they show the same entries with the same data.
-/
import LiveStandings.MatchReads
import LiveStandings.Roster

namespace LiveStandings

open KeyedTable PyJson Ranking Pages

/-- `PlayerRatingRead`. -/
structure PlayerRatingRead where
  leaderboardId : Int
  currentRating : Int
  maxRating : Int
  wins : Int
  losses : Int
  streak : Int
  drops : Int
  rank : Option Int
  rankTotal : Option Int
  regionRank : Option Int
  regionRankTotal : Option Int
  lastMatchAt : Option Instant
  updatedAt : Instant
deriving Repr, DecidableEq

/-- `PlayerRead`. -/
structure PlayerRead where
  tournamentPlayerId : Int
  profileId : Option Int
  name : String
  aliasName : String
  country : Option String
  steamId : Option String
  level : Option Int
  xp : Option Int
  regionId : Option Int
  clanName : Option String
  updatedAt : Option Instant
  presentation : List (String × Json)
  ratings : List PlayerRatingRead

/-- `PlayerDetail`. -/
structure PlayerDetail extends PlayerRead where
  lastPolledAt : Option Instant
  recentMatches : List MatchRead

def playerRatingRead (rating : PlayerRating) : PlayerRatingRead where
  leaderboardId := rating.leaderboardId
  currentRating := rating.currentRating
  maxRating := rating.maxRating
  wins := rating.wins
  losses := rating.losses
  streak := rating.streak
  drops := rating.drops
  rank := rating.rank
  rankTotal := rating.rankTotal
  regionRank := rating.regionRank
  regionRankTotal := rating.regionRankTotal
  lastMatchAt := rating.lastMatchAt
  updatedAt := rating.updatedAt

/-- `Player.ratings`. -/
def ratingsOf (db : Database) (profileId : Int) : List PlayerRating :=
  db.playerRatings.rows.filter (·.profileId = profileId)

/-- `_unlinked_player_read`. -/
def unlinkedPlayerRead (entry : TournamentPlayer) : PlayerRead where
  tournamentPlayerId := entry.id
  profileId := none
  name := entry.name
  aliasName := entry.name
  country := none
  steamId := none
  level := none
  xp := none
  regionId := none
  clanName := none
  updatedAt := none
  presentation := entry.presentation
  ratings := []

/-- `PlayerRead.model_validate`, with what is folded in from the roster. -/
def polledPlayerRead (db : Database) (entry : TournamentPlayer)
    (player : Player) : PlayerRead where
  tournamentPlayerId := entry.id
  profileId := some player.profileId
  name := entry.name
  aliasName := player.aliasName
  country := player.country
  steamId := player.steamId
  level := some player.level
  xp := some player.xp
  regionId := some player.regionId
  clanName := player.clanName
  updatedAt := some player.updatedAt
  presentation := entry.presentation
  ratings := (ratingsOf db player.profileId).map playerRatingRead

/-- The rows of the `list_players` query. -/
def playerRows (db : Database) (t : Tournament) :
    List (TournamentPlayer × Option Player) :=
  ((db.tournamentPlayers.rows.filter (·.tournamentId = t.id)).map fun entry =>
    (entry, entry.profileId.bind db.players.find?)).filter fun row =>
      row.2.isSome || row.1.profileId.isNone

/-- `leaderboard_id` filters the ratings. -/
def PlayerRead.onBoard (read : PlayerRead) (leaderboardId : Option Int) :
    PlayerRead :=
  { read with ratings := read.ratings.filter fun rating =>
      leaderboardId.all (rating.leaderboardId = ·) }

/-- The body of the loop of `list_players`. -/
def playerItem (db : Database) (leaderboardId : Option Int)
    (row : TournamentPlayer × Option Player) : PlayerRead :=
  match row.2 with
  | some player => (polledPlayerRead db row.1 player).onBoard leaderboardId
  | none => unlinkedPlayerRead row.1

/-- The timestamps the loop gathers. -/
def playerStamps (item : PlayerRead) : List (Option Instant) :=
  item.updatedAt :: item.ratings.map fun rating => some rating.updatedAt

/-- `list_players`. -/
def listPlayers (db : Database) (t : Tournament) (leaderboardId : Option Int) :
    ListEnvelope PlayerRead :=
  let items := (sortBy (fun row => codePoints row.1.name)
    (playerRows db t)).map (playerItem db leaderboardId)
  { lastPolledAt := computeLastPolledAt (items.flatMap playerStamps)
    items := items }

/-- `get_player`. -/
def getPlayer (ties : TieOrder Match) (db : Database) (t : Tournament)
    (tournamentPlayerId : Int) (matchLimit : Nat) :
    Except Raised PlayerDetail :=
  match rosterRowById db t.id tournamentPlayerId with
  | none =>
      .error (httpException 404 "Player not found in this tournament" final_404)
  | some entry =>
      match entry.profileId.bind db.players.find? with
      | none =>
          .ok { unlinkedPlayerRead entry with
            profileId := entry.profileId
            lastPolledAt := none
            recentMatches := [] }
      | some player =>
          let recent := recentMatches ties db player.profileId matchLimit
          .ok { polledPlayerRead db entry player with
            lastPolledAt := computeLastPolledAt
              (playerStamps (polledPlayerRead db entry player) ++
                recent.map fun m => some m.updatedAt)
            recentMatches := recent }

section Reads

variable {ties : TieOrder Match} {db : Database} {t : Tournament}

theorem mem_playerRows {row : TournamentPlayer × Option Player} :
    row ∈ playerRows db t ↔ ∃ entry ∈ db.tournamentPlayers.rows,
      entry.tournamentId = t.id ∧
        row = (entry, entry.profileId.bind db.players.find?) ∧
        (row.2.isSome || row.1.profileId.isNone) = true := by
  simp only [playerRows, List.mem_filter, List.mem_map, decide_eq_true_eq]
  constructor
  · rintro ⟨⟨entry, ⟨hentry, htournament⟩, rfl⟩, hvisible⟩
    exact ⟨entry, hentry, htournament, rfl, hvisible⟩
  · rintro ⟨entry, hentry, htournament, rfl, hvisible⟩
    exact ⟨⟨entry, ⟨hentry, htournament⟩, rfl⟩, hvisible⟩

theorem playerRows_eq_rosterRows (db : Database) (t : Tournament) :
    playerRows db t =
      (rosterRows db t).map fun row => (row.entry, row.player) := by
  rw [playerRows, rosterRows, List.filter_map, List.filter_map, List.map_map]
  rfl

theorem rosterRowById_eq_some_iff {id : Int} {entry : TournamentPlayer} :
    rosterRowById db t.id id = some entry ↔
      entry ∈ db.tournamentPlayers.rows ∧ entry.id = id ∧
        entry.tournamentId = t.id := by
  rw [rosterRowById, Option.filter_eq_some_iff,
    db.tournamentPlayers.find?_eq_some_iff, decide_eq_true_iff, and_assoc]

@[simp] theorem tournamentPlayerId_playerItem (leaderboardId : Option Int)
    (row : TournamentPlayer × Option Player) :
    (playerItem db leaderboardId row).tournamentPlayerId = row.1.id := by
  unfold playerItem
  split <;> rfl

@[simp] theorem name_playerItem (leaderboardId : Option Int)
    (row : TournamentPlayer × Option Player) :
    (playerItem db leaderboardId row).name = row.1.name := by
  unfold playerItem
  split <;> rfl

theorem profileId_playerItem {leaderboardId : Option Int}
    {row : TournamentPlayer × Option Player} {profileId : Int}
    (hprofile : (playerItem db leaderboardId row).profileId = some profileId) :
    ∃ player, row.2 = some player ∧ player.profileId = profileId := by
  unfold playerItem at hprofile
  cases hplayer : row.2 with
  | none =>
      rw [hplayer] at hprofile
      cases hprofile
  | some player =>
      rw [hplayer] at hprofile
      exact ⟨player, rfl, Option.some.inj hprofile⟩

theorem onBoard_none (read : PlayerRead) : read.onBoard none = read := by
  have hratings : read.ratings.filter (fun rating =>
      (none : Option Int).all (rating.leaderboardId = ·)) = read.ratings :=
    List.filter_eq_self.mpr fun _ _ => rfl
  rw [PlayerRead.onBoard, hratings]

/-- With a filter an item has fewer ratings, and is otherwise the same. -/
theorem playerItem_onBoard (leaderboardId : Option Int)
    (row : TournamentPlayer × Option Player) :
    playerItem db leaderboardId row =
      (playerItem db none row).onBoard leaderboardId := by
  unfold playerItem
  split
  · rw [onBoard_none]
  · rfl

theorem orderedRows_perm (db : Database) (t : Tournament) (now : Instant) :
    (orderedRows db t now).Perm (rosterRows db t) := by
  unfold orderedRows
  cases frozenStandings db t now with
  | none => exact sortBy_perm _ _
  | some frozen => exact (sortBy_perm _ _).trans (sortBy_perm _ _)

theorem listPlayers_perm (names : Dict Int String) (now : Instant)
    (leaderboardId : Option Int) :
    ((listPlayers db t leaderboardId).items.map (·.tournamentPlayerId)).Perm
      ((getStandings db t names now).items.map (·.tournamentPlayerId)) := by
  have hlist : (listPlayers db t leaderboardId).items.map
      (·.tournamentPlayerId) =
        (sortBy (fun row => codePoints row.1.name) (playerRows db t)).map
          (·.1.id) := by
    simp only [listPlayers, List.map_map]
    exact List.map_congr_left fun row _ =>
      tournamentPlayerId_playerItem leaderboardId row
  have htable : (getStandings db t names now).items.map
      (·.tournamentPlayerId) = (orderedRows db t now).map (·.entry.id) := by
    simp only [getStandings, List.map_map]
    exact List.map_congr_left fun row _ =>
      tournamentPlayerId_standingRow ..
  rw [hlist, htable]
  refine ((sortBy_perm _ _).map _).trans ?_
  rw [playerRows_eq_rosterRows, List.map_map]
  exact ((orderedRows_perm db t now).map _).symm

/-- An entry that is listed has been polled, or has nobody to poll. -/
theorem mem_listPlayers {leaderboardId : Option Int} {item : PlayerRead} :
    item ∈ (listPlayers db t leaderboardId).items ↔
      ∃ entry ∈ db.tournamentPlayers.rows, entry.tournamentId = t.id ∧
        ((entry.profileId.bind db.players.find?).isSome ||
          entry.profileId.isNone) = true ∧
        item = playerItem db leaderboardId
          (entry, entry.profileId.bind db.players.find?) := by
  simp only [listPlayers, List.mem_map, mem_sortBy, mem_playerRows]
  constructor
  · rintro ⟨row, ⟨entry, hentry, htournament, rfl, hvisible⟩, rfl⟩
    exact ⟨entry, hentry, htournament, hvisible, rfl⟩
  · rintro ⟨entry, hentry, htournament, hvisible, rfl⟩
    exact ⟨_, ⟨entry, hentry, htournament, rfl, hvisible⟩, rfl⟩

/-- The detail of an entry on the roster. -/
theorem getPlayer_cases (ties : TieOrder Match) (db : Database)
    {t : Tournament} {entry : TournamentPlayer}
    (hentry : entry ∈ db.tournamentPlayers.rows)
    (htournament : entry.tournamentId = t.id) (matchLimit : Nat) :
    (∃ player, entry.profileId.bind db.players.find? = some player ∧
      getPlayer ties db t entry.id matchLimit = .ok
        { polledPlayerRead db entry player with
          lastPolledAt := computeLastPolledAt
            (playerStamps (polledPlayerRead db entry player) ++
              (recentMatches ties db player.profileId matchLimit).map fun m =>
                some m.updatedAt)
          recentMatches :=
            recentMatches ties db player.profileId matchLimit }) ∨
      entry.profileId.bind db.players.find? = none ∧
        getPlayer ties db t entry.id matchLimit = .ok
          { unlinkedPlayerRead entry with
            profileId := entry.profileId
            lastPolledAt := none
            recentMatches := [] } := by
  have hrow := rosterRowById_eq_some_iff.mpr ⟨hentry, rfl, htournament⟩
  unfold getPlayer
  rw [hrow]
  cases hplayer : entry.profileId.bind db.players.find? with
  | some player => exact Or.inl ⟨player, rfl, by simp only [hplayer]⟩
  | none => exact Or.inr ⟨rfl, by simp only [hplayer]⟩

theorem exists_of_getPlayer {id : Int} {matchLimit : Nat}
    {detail : PlayerDetail}
    (hget : getPlayer ties db t id matchLimit = .ok detail) :
    ∃ entry ∈ db.tournamentPlayers.rows, entry.tournamentId = t.id ∧
      entry.id = id := by
  unfold getPlayer at hget
  cases hrow : rosterRowById db t.id id with
  | none =>
      rw [hrow] at hget
      cases hget
  | some entry =>
      obtain ⟨hentry, hid, htournament⟩ := rosterRowById_eq_some_iff.mp hrow
      exact ⟨entry, hentry, htournament, hid⟩

/-- A detail beside the list: the list has it, or hides an entry whose profile
has not been polled, of which the detail has nothing polled either. -/
theorem listed_or_hidden (ties : TieOrder Match) {entry : TournamentPlayer}
    (hentry : entry ∈ db.tournamentPlayers.rows)
    (htournament : entry.tournamentId = t.id) (matchLimit : Nat) :
    ∃ detail, getPlayer ties db t entry.id matchLimit = .ok detail ∧
      ((detail.toPlayerRead = playerItem db none
          (entry, entry.profileId.bind db.players.find?) ∧
        ((entry.profileId.bind db.players.find?).isSome ||
          entry.profileId.isNone) = true ∧
        detail.recentMatches = ((entry.profileId.bind
          db.players.find?).map fun player =>
            recentMatches ties db player.profileId matchLimit).getD []) ∨
      ((∃ profileId, entry.profileId = some profileId ∧
          db.players.find? profileId = none) ∧
        detail.toPlayerRead =
          { unlinkedPlayerRead entry with profileId := entry.profileId } ∧
        detail.recentMatches = [] ∧ detail.lastPolledAt = none)) := by
  rcases getPlayer_cases ties db hentry htournament matchLimit with
    ⟨player, hplayer, hget⟩ | ⟨hplayer, hget⟩
  · refine ⟨_, hget, Or.inl ⟨?_, by rw [hplayer]; rfl, ?_⟩⟩
    · rw [hplayer, playerItem]
      exact (onBoard_none _).symm
    · rw [hplayer]
      rfl
  · refine ⟨_, hget, ?_⟩
    cases hprofile : entry.profileId with
    | none =>
        refine Or.inl ⟨?_, rfl, rfl⟩
        rw [Option.bind_none, playerItem]
        rfl
    | some profileId =>
        rw [hprofile] at hplayer
        exact Or.inr ⟨⟨profileId, rfl, hplayer⟩, rfl, rfl, rfl⟩

end Reads

/-- The reads of the roster agree, however each query orders matches that
started at one instant.  The list has the entries of the table, by name; each
has its detail, with the same data and the matches that the list of matches has
of it, in the same order if the player started no two at once or the queries
break ties alike; a filter only takes ratings away; and an entry that has a
detail and is not listed is linked to a profile that was never polled. -/
theorem player_reads_agree (ties ties' : TieOrder Match) (db : Database)
    (t : Tournament) (names : Dict Int String) (now : Instant)
    (leaderboardId : Option Int) (matchLimit : Nat) :
    ((listPlayers db t leaderboardId).items.map (·.tournamentPlayerId)).Perm
        ((getStandings db t names now).items.map (·.tournamentPlayerId)) ∧
      (listPlayers db t leaderboardId).items.Pairwise (fun left right =>
        codePoints left.name ≤ codePoints right.name) ∧
      (∀ item ∈ (listPlayers db t leaderboardId).items, ∃ detail,
        getPlayer ties db t item.tournamentPlayerId matchLimit = .ok detail ∧
          item = detail.toPlayerRead.onBoard leaderboardId ∧
          ∀ profileId, item.profileId = some profileId →
            starts detail.recentMatches =
              starts (listMatches ties' db t ⟨some profileId, none, none⟩
                matchLimit).items ∧
            (ties = ties' ∨ OneAtATime db (· = profileId) →
              detail.recentMatches =
                (listMatches ties' db t ⟨some profileId, none, none⟩
                  matchLimit).items)) ∧
      ∀ id detail, getPlayer ties db t id matchLimit = .ok detail →
        detail.toPlayerRead ∈ (listPlayers db t none).items ∨
          ∃ profileId, detail.profileId = some profileId ∧
            db.players.find? profileId = none ∧ detail.ratings = [] ∧
              detail.recentMatches = [] ∧ detail.lastPolledAt = none := by
  refine ⟨listPlayers_perm names now leaderboardId, ?_, fun item hitem => ?_,
    fun id detail hget => ?_⟩
  · refine List.pairwise_map.mpr ((sortBy_pairwise _ _).imp ?_)
    intro left right hle
    rwa [name_playerItem, name_playerItem]
  · obtain ⟨entry, hentry, htournament, hvisible, rfl⟩ :=
      mem_listPlayers.mp hitem
    obtain ⟨detail, hdetail, ⟨hsame, _, hrecent⟩ | ⟨⟨_, hprofile, hnone⟩, _⟩⟩ :=
      listed_or_hidden ties hentry htournament matchLimit
    · refine ⟨detail, ?_, ?_, fun profileId hprofile => ?_⟩
      · rwa [tournamentPlayerId_playerItem]
      · rw [hsame, ← playerItem_onBoard]
      · obtain ⟨player, hplayer, rfl⟩ := profileId_playerItem hprofile
        have hjoined : entry.profileId.bind db.players.find? = some player :=
          hplayer
        obtain ⟨profileId, hlinked, hfind⟩ := Option.bind_eq_some_iff.mp hjoined
        have hroster : onRoster db t player.profileId = true := by
          rw [db.players.key_of_find? hfind]
          exact onRoster_iff.mpr ⟨entry, hentry, htournament, hlinked⟩
        rw [hrecent, hjoined]
        exact recentMatches_agree ties ties' hroster matchLimit
    · rw [hprofile, Option.bind_some, hnone] at hvisible
      cases hvisible
  · obtain ⟨entry, hentry, htournament, rfl⟩ := exists_of_getPlayer hget
    obtain ⟨found, hfound, ⟨hsame, hvisible, _⟩ |
      ⟨⟨profileId, hprofile, hnone⟩, hread, hrecent, hpolled⟩⟩ :=
        listed_or_hidden ties hentry htournament matchLimit
    · cases hget.symm.trans hfound
      exact Or.inl (mem_listPlayers.mpr
        ⟨entry, hentry, htournament, hvisible, hsame⟩)
    · cases hget.symm.trans hfound
      refine Or.inr ⟨profileId, ?_, hnone, ?_, hrecent, hpolled⟩
      · exact (congrArg PlayerRead.profileId hread).trans hprofile
      · exact congrArg PlayerRead.ratings hread

end LiveStandings
