/-
The final table of a tournament ranked by current rating.  Once the window has
closed the rating of an entrant is its last one by the end; whatever the pollers
write about later games and later observations leaves it where it is.
-/
import LiveStandings.FinalTable
import LiveStandings.NudgeScope
import LiveStandings.HistoryEndpoint

namespace LiveStandings

open KeyedTable PyJson Ranking Runs

/-- Games are ordered by their start, and then by the match's id. -/
def Game.order (game : Game) : Instant ×ₗ Int :=
  toLex (game.played.startedAt, game.played.matchId)

/-- The snapshots of a profile that were observed by `bound` and have a current
rating. -/
def ratedSnapshots (db : Database) (t : Tournament) (bound : Instant)
    (profileId : Int) : List PlayerRatingSnapshot :=
  (snapshotsOf db t profileId).filter fun snapshot =>
    snapshot.observedAt ≤ bound && snapshot.currentRating.isSome

/-- A profile with a rated game that started by `bound`, or a current rating
observed by then. -/
def RatedBy (db : Database) (t : Tournament) (bound : Instant)
    (profileId : Int) : Prop :=
  settledGames db t bound profileId ≠ [] ∨
    ratedSnapshots db t bound profileId ≠ []

/-- The current rating at the end of the window: the one the last game left, or
without a game the one observed last. -/
inductive FinalCurrent (db : Database) (t : Tournament) (bound : Instant)
    (profileId : Int) : Int → Prop where
  | game {last : Game} {current : Int} :
      last ∈ settledGames db t bound profileId →
      (∀ other ∈ settledGames db t bound profileId,
        other.order ≤ last.order) →
      last.row.newRating = some current →
      FinalCurrent db t bound profileId current
  | observed {latest : PlayerRatingSnapshot} {current : Int} :
      settledGames db t bound profileId = [] →
      latest ∈ ratedSnapshots db t bound profileId →
      NoneLater (ratedSnapshots db t bound profileId) latest →
      latest.currentRating = some current →
      FinalCurrent db t bound profileId current

/-- A tick after the window: ratings are observed later than `bound`, the
matches of a batch started later, and lobbies are as they may be. -/
def Tick.Late (codec : Codec) (mapping : Dict Int Int) (bound : Instant)
    (db : Database) : Tick → Prop
  | playerStats now _ _ => bound < now
  | recentMatches now batch =>
      LateRows bound db (batchRows codec mapping now batch)
  | liveMatches .. => True

/-- One late tick, under the tournament mapping of its moment. -/
inductive LateTick (codec : Codec) (bound : Instant) :
    Database → Dict Int Int × Tick → Database → Prop where
  | commit {db : Database} {mapping : Dict Int Int} {tick : Tick} :
      tick.Late codec mapping bound db →
      LateTick codec bound db (mapping, tick) (tick.commit codec mapping db)

/-- Every player row has its match. -/
def Database.Matched (db : Database) : Prop :=
  ∀ row ∈ db.matchPlayers.rows, (db.matchTable.find? row.matchId).isSome

section Reading

variable {db : Database} {t : Tournament} {bound : Instant} {profileId : Int}

theorem mem_settledGames {game : Game}
    (hgame : game ∈ settledGames db t bound profileId) :
    game.row ∈ db.matchPlayers.rows ∧ game.row.profileId = profileId ∧
      game.played.matchId = game.row.matchId ∧
        joinMatch db game.row = some game ∧ game.row.newRating.isSome := by
  rw [settledGames_eq] at hgame
  obtain ⟨row, hrow, hentry⟩ := List.mem_filterMap.mp hgame
  obtain ⟨hmem, hprofile⟩ := List.mem_filter.mp hrow
  obtain ⟨hjoin, hkept⟩ := Option.filter_eq_some_iff.mp hentry
  obtain ⟨m, hfind, rfl⟩ := Option.map_eq_some_iff.mp hjoin
  simp only [Bool.and_eq_true, decide_eq_true_eq] at hkept hprofile
  exact ⟨hmem, hprofile, db.matchTable.key_of_find? hfind, hjoin, hkept.1.2⟩

theorem gameOrder_injOn :
    ∀ left ∈ settledGames db t bound profileId,
      ∀ right ∈ settledGames db t bound profileId,
        left.order = right.order → left = right := by
  intro left hleft right hright heq
  obtain ⟨hmem, hprofile, hid, hjoin, _⟩ := mem_settledGames hleft
  obtain ⟨hmem', hprofile', hid', hjoin', _⟩ := mem_settledGames hright
  have hmatch : left.played.matchId = right.played.matchId :=
    congrArg (fun key => (ofLex key).2) heq
  have hrow : left.row = right.row := by
    apply db.matchPlayers.eq_of_key_eq hmem hmem'
    rw [MatchPlayer.key, MatchPlayer.key, hprofile, hprofile', ← hid, ← hid',
      hmatch]
  rw [hrow, hjoin'] at hjoin
  exact (Option.some.inj hjoin).symm

theorem frozenCurrent_of_ratedBy (hrated : RatedBy db t bound profileId) :
    ∃ current, FinalCurrent db t bound profileId current ∧
      frozenCurrent db t bound profileId = some current := by
  have hread : frozenCurrent db t bound profileId =
      (((sortBy Game.order
          (settledGames db t bound profileId)).getLast?).bind
        (·.row.newRating)).or
      ((((sortBy PlayerRatingSnapshot.order
          (ratedSnapshots db t bound profileId)).getLast?).bind
        (·.currentRating)).or
          ((liveRating db t profileId).map (·.currentRating))) :=
    frozenCurrent_eq_or db t bound profileId
  rw [hread]
  cases hlast : (sortBy Game.order
      (settledGames db t bound profileId)).getLast? with
  | some last =>
      obtain ⟨hmem, hle⟩ := (getLast?_sortBy_eq_some_iff gameOrder_injOn).mp hlast
      obtain ⟨_, _, _, _, hsettled⟩ := mem_settledGames hmem
      obtain ⟨current, hcurrent⟩ := Option.isSome_iff_exists.mp hsettled
      exact ⟨current, .game hmem hle hcurrent, by simp [hcurrent]⟩
  | none =>
      have hnogame : settledGames db t bound profileId = [] :=
        List.perm_nil.mp
          ((List.getLast?_eq_none_iff.mp hlast) ▸ (sortBy_perm _ _).symm)
      have hsnapshots := hrated.resolve_left (fun hne => hne hnogame)
      have hsorted : sortBy PlayerRatingSnapshot.order
          (ratedSnapshots db t bound profileId) ≠ [] := by
        intro hnil
        exact hsnapshots (List.perm_nil.mp (hnil ▸ (sortBy_perm _ _).symm))
      have hlatest := List.getLast?_eq_some_getLast hsorted
      obtain ⟨hmem, hnone⟩ := (getLast?_sortBy_eq_some_iff
        fun left hleft right hright =>
          order_injOn db t profileId left (List.mem_of_mem_filter hleft) right
            (List.mem_of_mem_filter hright)).mp hlatest
      have hkept := (List.mem_filter.mp hmem).2
      simp only [Bool.and_eq_true] at hkept
      obtain ⟨current, hcurrent⟩ := Option.isSome_iff_exists.mp hkept.2
      refine ⟨current, .observed hnogame hmem hnone hcurrent, ?_⟩
      rw [hlatest, Option.bind_some, hcurrent]
      rfl

theorem frozenCurrentByProfile_get? {now : Instant}
    (hclosed : closedBound t now = some bound) {profileIds : List Int}
    (hmem : profileId ∈ profileIds) :
    (frozenCurrentByProfile db t now profileIds).bind (·.get? profileId) =
      some (frozenCurrent db t bound profileId) := by
  rw [frozenCurrentByProfile, frozenByProfile, hclosed]
  exact Dict.get?_ofPairs_map (frozenCurrent db t bound) hmem

end Reading

/-- What the late ticks leave alone: the games and the observations by the end
of the window.  Every player row keeps its match. -/
structure FinalSources (t : Tournament) (bound : Instant)
    (db db' : Database) : Prop where
  matched : db'.Matched
  games : ∀ profileId, settledGames db' t bound profileId =
    settledGames db t bound profileId
  observed : ∀ profileId,
    (snapshotsOf db' t profileId).filter (·.observedAt ≤ bound) =
      (snapshotsOf db t profileId).filter (·.observedAt ≤ bound)

section Steps

variable {codec : Codec} {mapping : Dict Int Int} {t : Tournament}
  {bound : Instant} {db db' : Database}

theorem FinalSources.refl (hmatched : db.Matched) :
    FinalSources t bound db db :=
  ⟨hmatched, fun _ => rfl, fun _ => rfl⟩

theorem FinalSources.trans {db'' : Database}
    (hfirst : FinalSources t bound db db')
    (hsecond : FinalSources t bound db' db'') : FinalSources t bound db db'' where
  matched := hsecond.matched
  games profileId := (hsecond.games profileId).trans (hfirst.games profileId)
  observed profileId :=
    (hsecond.observed profileId).trans (hfirst.observed profileId)

theorem FinalSources.nudge (hsources : FinalSources t bound db db')
    (nudges : NudgeTable) :
    FinalSources t bound db { db' with nudgeVersions := nudges } :=
  ⟨hsources.matched, hsources.games, hsources.observed⟩

theorem FinalSources.ratedSnapshots_eq
    (hsources : FinalSources t bound db db') (profileId : Int) :
    ratedSnapshots db' t bound profileId =
      ratedSnapshots db t bound profileId := by
  have hsplit : ∀ any : Database, ratedSnapshots any t bound profileId =
      ((snapshotsOf any t profileId).filter (·.observedAt ≤ bound)).filter
        (·.currentRating.isSome) := by
    intro any
    rw [ratedSnapshots, List.filter_filter]
    apply List.filter_congr
    intro snapshot _
    exact Bool.and_comm _ _
  rw [hsplit, hsplit, hsources.observed]

theorem finalSources_writeStats (hmatched : db.Matched) {now : Instant}
    {players : List Player} {ratings : List PlayerRating} (hnow : bound < now)
    (hwrite : writeStats db now players ratings = .ok db') :
    FinalSources t bound db db' := by
  refine ⟨?_, fun profileId => ?_, snapshots_writeStats hnow hwrite⟩
  · obtain ⟨table, appended, _, _, rfl⟩ := writeStats_ok hwrite
    exact hmatched
  · obtain ⟨table, appended, _, _, rfl⟩ := writeStats_ok hwrite
    rfl

theorem Database.Matched.writeRecent (hmatched : db.Matched)
    {rows : RecentRows} (hjoined : rows.Joined) :
    (writeRecent db rows).Matched := by
  intro row hrow
  rw [find?_matchTable_writeRecent]
  obtain ⟨appended, hrows, hfresh⟩ := db.matchPlayers.rows_insertAll rows.players
  have hmem : row ∈ db.matchPlayers.rows ++ appended := hrows ▸ hrow
  rcases List.mem_append.mp hmem with hstored | hnew
  · cases lastUnder Match.matchId row.matchId rows.matchRows with
    | none => exact hmatched row hstored
    | some last => rfl
  · obtain ⟨m, hlast⟩ := hjoined row (hfresh row hnew).1
    rw [hlast]
    rfl

theorem finalSources_writeRecent (hmatched : db.Matched) {rows : RecentRows}
    (hjoined : rows.Joined) (hlate : LateRows bound db rows) :
    FinalSources t bound db (writeRecent db rows) :=
  ⟨hmatched.writeRecent hjoined, settledGames_writeRecent hlate,
    fun _ => rfl⟩

theorem finalSources_live (hmatched : db.Matched) {rows : List Match}
    {links : List LiveMatchPlayer}
    (hreplace : replaceLiveMatchPlayers (rows.foldl upsertMatchFromLive db)
      links = .ok db') :
    FinalSources t bound db db' := by
  have hjoin : ∀ row ∈ db.matchPlayers.rows, joinMatch db' row =
      joinMatch db row :=
    fun row hrow => joinMatch_writeLive hreplace (hmatched row hrow)
  obtain ⟨table, rfl, hplayed⟩ := writeLive_ok hreplace
  refine ⟨fun row hrow => ?_, fun profileId => ?_, fun _ => rfl⟩
  · have hsome := congrArg Option.isSome
      (hplayed row.matchId (hmatched row hrow))
    rw [Option.isSome_map, Option.isSome_map] at hsome
    exact hsome.trans (hmatched row hrow)
  · rw [settledGames_eq, settledGames_eq]
    apply List.filterMap_congr
    intro row hrow
    rw [settledEntry, settledEntry, hjoin row (List.mem_of_mem_filter hrow)]

theorem finalSources_commit (hmatched : db.Matched) {tick : Tick}
    (hlate : tick.Late codec mapping bound db) :
    FinalSources t bound db (tick.commit codec mapping db) := by
  rcases tick.commit_cases codec mapping db with
    hcommit | ⟨written, now, hwrites, hcommit⟩
  · rw [hcommit]
    exact .refl hmatched
  · have hsources : FinalSources t bound db written := by
      cases hwrites with
      | stats _ hwrite => exact finalSources_writeStats hmatched hlate hwrite
      | recent _ =>
          exact finalSources_writeRecent hmatched
            (batchRows_joined codec mapping _ _) hlate
      | live _ hreplace => exact finalSources_live hmatched hreplace
    rw [hcommit]
    exact hsources.nudge _

theorem finalSources_run (hmatched : db.Matched)
    {ticks : List (Dict Int Int × Tick)}
    (hrun : Run (LateTick codec bound) db ticks db') :
    FinalSources t bound db db' := by
  refine hrun.invariant (FinalSources t bound db) (.refl hmatched) ?_
  intro reached label next hsources hstep
  cases hstep with
  | commit hlate =>
      exact hsources.trans (finalSources_commit hsources.matched hlate)

theorem FinalSources.finalCurrent {profileId current : Int}
    (hsources : FinalSources t bound db db')
    (hfinal : FinalCurrent db' t bound profileId current) :
    FinalCurrent db t bound profileId current := by
  cases hfinal with
  | game hmem hle hcurrent =>
      rw [hsources.games] at hmem hle
      exact .game hmem hle hcurrent
  | observed hnogame hmem hnone hcurrent =>
      rw [hsources.games] at hnogame
      rw [hsources.ratedSnapshots_eq] at hmem hnone
      exact .observed hnogame hmem hnone hcurrent

end Steps

theorem finalCurrent_unique {db : Database} {t : Tournament} {bound : Instant}
    {profileId left right : Int} (hleft : FinalCurrent db t bound profileId left)
    (hright : FinalCurrent db t bound profileId right) : left = right := by
  cases hleft with
  | game hmem hle hcurrent =>
      cases hright with
      | game hmem' hle' hcurrent' =>
          have hsame := gameOrder_injOn _ hmem _ hmem'
            (le_antisymm (hle' _ hmem) (hle _ hmem'))
          rw [hsame, hcurrent'] at hcurrent
          exact (Option.some.inj hcurrent).symm
      | observed hnogame => exact absurd hmem (by simp [hnogame])
  | observed hnogame hmem hnone hcurrent =>
      cases hright with
      | game hmem' => exact absurd hmem' (by simp [hnogame])
      | observed _ hmem' hnone' hcurrent' =>
          have hsame := order_injOn db t profileId _
            (List.mem_of_mem_filter hmem) _ (List.mem_of_mem_filter hmem')
            (le_antisymm (hnone' _ hmem) (hnone _ hmem'))
          rw [hsame, hcurrent'] at hcurrent
          exact (Option.some.inj hcurrent).symm

/-- The current rating of a closed tournament is the one its last game by the
end of the window left, or else the last one observed by then, and no run of
later ticks moves it. -/
theorem final_current_fixed (codec : Codec) {db : Database}
    (hdb : db.Consistent) {t : Tournament} {bound now : Instant}
    (hclosed : closedBound t now = some bound) {profileId : Int}
    (hrated : RatedBy db t bound profileId) :
    ∃ current, FinalCurrent db t bound profileId current ∧
      ∀ ticks db' now' profileIds, Run (LateTick codec bound) db ticks db' →
        bound ≤ now' → profileId ∈ profileIds →
          (frozenCurrentByProfile db' t now' profileIds).bind
            (·.get? profileId) = some (some current) := by
  obtain ⟨current, hfinal, _⟩ := frozenCurrent_of_ratedBy hrated
  refine ⟨current, hfinal, fun ticks db' now' profileIds hrun hlater hasked => ?_⟩
  have hsources : FinalSources t bound db db' :=
    finalSources_run hdb.matchPlayer_match hrun
  have hrated' : RatedBy db' t bound profileId := by
    rw [RatedBy, hsources.games, hsources.ratedSnapshots_eq]
    exact hrated
  obtain ⟨current', hfinal', hread⟩ := frozenCurrent_of_ratedBy hrated'
  have hsame := finalCurrent_unique hfinal (hsources.finalCurrent hfinal')
  have hend := (closedBound_eq_some_iff.mp hclosed).1
  rw [frozenCurrentByProfile_get? (closedBound_eq_some_iff.mpr ⟨hend, hlater⟩)
    hasked, hread, hsame]

namespace FinalCurrentWitness

open Factory

/-- The window closed at 1000. -/
def cup : Tournament := makeTournament .currentRating none (some 1000)

/-- A game that started in the window and ended after it. -/
def buzzerBeater : Database :=
  seed [makePlayerRating 1 1700 1700, makePlayerRating 2 1450 1550]
    [makePlayerRatingSnapshot 1 1 1500 1600 500] [makeMatch 9 900 1200]
    [makeMatchPlayer 9 1 1500 1520]

theorem buzzerBeater_consistent : buzzerBeater.Consistent := by
  constructor <;> decide

theorem finalCurrent_buzzerBeater :
    FinalCurrent buzzerBeater cup 1000 1 1520 := by
  let last : Game :=
    ⟨makeMatchPlayer 9 1 1500 1520, (makeMatch 9 900 1200).played⟩
  have hgames : settledGames buzzerBeater cup 1000 1 = [last] := by decide
  refine .game (hgames ▸ List.mem_singleton_self last) ?_ rfl
  intro other hother
  rw [hgames] at hother
  cases List.mem_singleton.mp hother
  exact le_refl _

end FinalCurrentWitness

open FinalCurrentWitness BatchWitness NudgeScopeWitness in
/-- A match fetched after the window leaves the buzzer-beater's rating. -/
theorem final_current_fixed_buzzer :
    (frozenCurrentByProfile (bothFetched.commit codec [(6, 3)] buzzerBeater)
      cup 5000000 [1, 2]).bind (·.get? 1) = some (some 1520) := by
  have hclosed : closedBound cup 2000 = some 1000 := by decide
  have hrated : RatedBy buzzerBeater cup 1000 1 := Or.inl (by decide)
  obtain ⟨current, hfinal, hfixed⟩ := final_current_fixed codec
    buzzerBeater_consistent hclosed hrated
  have hlate : bothFetched.Late codec [(6, 3)] 1000 buzzerBeater := by
    constructor <;> decide
  rw [finalCurrent_unique finalCurrent_buzzerBeater hfinal]
  exact hfixed _ _ 5000000 [1, 2] (.single (.commit hlate)) (by decide)
    (by decide)

end LiveStandings
