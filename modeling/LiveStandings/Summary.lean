/-
The summary cards.  Each card names the linked entrant that leads one value;
the rating card leads on the value the table ranks on, though the table holds
an entrant back until its player has been polled.
-/
import LiveStandings.WinStreaks
import LiveStandings.FinalCurrent
import Mathlib.Algebra.Order.Ring.Rat

namespace LiveStandings

open KeyedTable PyJson Ranking Runs

/-- `_rank_metric_by_profile`. -/
def rankMetricByProfile (db : Database) (t : Tournament) (now : Instant)
    (profileIds : List Int) : Dict Int (Option Int) :=
  match frozenMetricByProfile db t now profileIds with
  | some frozen => frozen
  | none => Dict.ofPairs (profileIds.map fun profileId =>
      (profileId, (liveRating db t profileId).map (rankedRating t)))

/-- `_net_rating_change_by_profile`: from the first rated game in the window to
the last. -/
def netRatingChangeByProfile (db : Database) (t : Tournament)
    (profileId : Int) : Option Int :=
  let ratings := (sortBy Game.order ((games db profileId).filter fun game =>
    game.played.leaderboardId = some t.leaderboardId &&
      game.row.outcome.isSome && game.row.newRating.isSome &&
        t.inWindow game.played.startedAt)).filterMap (·.row.newRating)
  match ratings with
  | first :: second :: rest =>
      some ((second :: rest).getLast (List.cons_ne_nil second rest) - first)
  | _ => none

/-- `_SummaryCandidate`. -/
structure SummaryCandidate where
  tournamentPlayerId : Int
  profileId : Int
  name : String
  record : TournamentRecord
  netRatingChange : Option Int
  rankMetric : Option Int

/-- `SummaryCard`, and `_SummaryLeader`. -/
structure SummaryCard (V : Type) where
  tournamentPlayerId : Int
  profileId : Int
  name : String
  value : V
deriving Repr, DecidableEq

/-- `StreakSummaryCard`. -/
structure StreakSummaryCard extends SummaryCard Nat where
  streakStart : Option Instant
  streakEnd : Option Instant
deriving Repr, DecidableEq

/-- `TournamentSummary`. -/
structure TournamentSummary where
  lastPolledAt : Option Instant
  highestPeakRating : Option (SummaryCard Int)
  highestCurrentRating : Option (SummaryCard Int)
  bestWinRate : Option (SummaryCard ℚ)
  longestWinStreak : Option StreakSummaryCard
  biggestClimber : Option (SummaryCard Int)
  mostGamesPlayed : Option (SummaryCard Nat)
deriving Repr, DecidableEq

/-- The summary of a tournament without linked entrants. -/
def TournamentSummary.empty : TournamentSummary where
  lastPolledAt := none
  highestPeakRating := none
  highestCurrentRating := none
  bestWinRate := none
  longestWinStreak := none
  biggestClimber := none
  mostGamesPlayed := none

section Leaders

variable {V : Type} [LinearOrder V]

/-- Values tie-break by more games played, and then by the lower id. -/
def leaderKey (value : V) (candidate : SummaryCandidate) : V ×ₗ Nat ×ₗ Int :=
  toLex (value, toLex (candidate.record.gamesPlayed,
    -candidate.tournamentPlayerId))

/-- `_pick_leader`, and `_summary_card` of it: the first of the greatest keys. -/
def pickLeader (candidates : List SummaryCandidate)
    (metric : SummaryCandidate → Option V) : Option (SummaryCard V) :=
  let valued := candidates.filterMap fun candidate =>
    (metric candidate).map fun value => (value, candidate)
  (greatest (fun pair => leaderKey pair.1 pair.2) valued).map fun pair =>
    ⟨pair.2.tournamentPlayerId, pair.2.profileId, pair.2.name, pair.1⟩

theorem pickLeader_eq_none_iff {candidates : List SummaryCandidate}
    {metric : SummaryCandidate → Option V} :
    pickLeader candidates metric = none ↔
      ∀ candidate ∈ candidates, metric candidate = none := by
  rw [pickLeader, Option.map_eq_none_iff, greatest_eq_none_iff,
    List.filterMap_eq_nil_iff]
  simp only [Option.map_eq_none_iff]

/-- A leader is a candidate that no other outranks. -/
theorem pickLeader_eq_some {candidates : List SummaryCandidate}
    {metric : SummaryCandidate → Option V} {card : SummaryCard V}
    (hcard : pickLeader candidates metric = some card) :
    ∃ leader ∈ candidates, metric leader = some card.value ∧
      leader.tournamentPlayerId = card.tournamentPlayerId ∧
        ∀ other ∈ candidates, ∀ value, metric other = some value →
          leaderKey value other ≤ leaderKey card.value leader := by
  obtain ⟨⟨value, leader⟩, hfirst, rfl⟩ := Option.map_eq_some_iff.mp hcard
  obtain ⟨hvalued, hgreatest⟩ := greatest_eq_some hfirst
  obtain ⟨candidate, hmem, hvalue⟩ := List.mem_filterMap.mp hvalued
  obtain ⟨value', hmetric, hpair⟩ := Option.map_eq_some_iff.mp hvalue
  cases hpair
  refine ⟨leader, hmem, hmetric, rfl, fun other hother otherValue hvalue => ?_⟩
  exact hgreatest (otherValue, other)
    (List.mem_filterMap.mpr ⟨other, hother, by rw [hvalue]; rfl⟩)

end Leaders

/-- The entrants a summary chooses from. -/
def summaryCandidates (db : Database) (t : Tournament) (names : Dict Int String)
    (now : Instant) : List SummaryCandidate :=
  let roster := (rosterEntries db t).filterMap fun entry =>
    entry.profileId.map fun profileId => (entry, profileId)
  let rankMetrics := rankMetricByProfile db t now (roster.map (·.2))
  roster.map fun pair =>
    { tournamentPlayerId := pair.1.id
      profileId := pair.2
      name := resolveDisplayName pair.1.name pair.1.presentation
      record := tournamentRecordByProfile db t names pair.2
      netRatingChange := netRatingChangeByProfile db t pair.2
      rankMetric := (rankMetrics.get? pair.2).join }

/-- `metric or None`: a zero count does not lead. -/
def orNone (count : Nat) : Option Nat :=
  if count = 0 then none else some count

/-- `get_summary`, for a given reading of the record's rounded percentage. -/
def getSummary (winPct : TournamentRecord → Option ℚ) (db : Database)
    (t : Tournament) (names : Dict Int String) (now : Instant)
    (winRateMinGames : Nat) : TournamentSummary :=
  let candidates := summaryCandidates db t names now
  if candidates.isEmpty then .empty
  else
    let ratingCard := pickLeader candidates (·.rankMetric)
    { lastPolledAt := computeLastPolledAt
        (candidates.map (·.record.lastMatchAt))
      highestPeakRating :=
        if t.rankBy = .currentRating then none else ratingCard
      highestCurrentRating :=
        if t.rankBy = .currentRating then ratingCard else none
      bestWinRate := pickLeader candidates fun candidate =>
        if winRateMinGames ≤ candidate.record.gamesPlayed then
          winPct candidate.record
        else none
      longestWinStreak :=
        (pickLeader candidates (orNone ·.record.longestWinStreak)).map
          fun streak =>
            let (_, streakStart, streakEnd) :=
              longestWinStreakRun db t streak.profileId
            ⟨streak, streakStart, streakEnd⟩
      biggestClimber := pickLeader candidates (·.netRatingChange)
      mostGamesPlayed :=
        pickLeader candidates (orNone ·.record.gamesPlayed) }

/-- The rating card, whichever field the mode puts it in. -/
def TournamentSummary.ratingCard (t : Tournament)
    (summary : TournamentSummary) : Option (SummaryCard Int) :=
  match t.rankBy with
  | .currentRating => summary.highestCurrentRating
  | .peakRating => summary.highestPeakRating

/-- The rating card is the top of the table. -/
structure TopOfTable (t : Tournament) (card : Option (SummaryCard Int))
    (items : List StandingRow) : Prop where
  null : card = none ↔ ∀ row ∈ items, row.ranked t = none
  top : ∀ leader, card = some leader →
    (∃ row ∈ items, row.tournamentPlayerId = leader.tournamentPlayerId ∧
      row.ranked t = some leader.value) ∧
        ∀ row ∈ items, ∀ value, row.ranked t = some value →
          value ≤ leader.value

/-- What a profile is ranked on: its live rating, or its frozen metric once the
window has closed. -/
def profileMetric (db : Database) (t : Tournament) (now : Instant)
    (profileId : Int) : Option Int :=
  match closedBound t now with
  | none => (liveRating db t profileId).map (rankedRating t)
  | some bound => frozenMetric db t bound profileId

/-- Where an entrant stands among the candidates of the rating card. -/
def ratingKey (db : Database) (t : Tournament) (names : Dict Int String)
    (now : Instant) (entry : TournamentPlayer) (profileId : Int) :
    Option (Int ×ₗ Nat ×ₗ Int) :=
  (profileMetric db t now profileId).map fun value =>
    toLex (value, toLex
      ((tournamentRecordByProfile db t names profileId).gamesPlayed, -entry.id))

/-- A linked entry whose player has been polled, so that the table lists it. -/
structure Listed (db : Database) (t : Tournament) (entry : TournamentPlayer)
    (profileId : Int) : Prop extends Linked db t entry profileId where
  polled : (db.players.find? profileId).isSome

/-- An entrant the table holds back with a rated game by the end of the
window. -/
structure HeldBack (db : Database) (t : Tournament) (bound : Instant)
    (entry : TournamentPlayer) (profileId : Int) : Prop
    extends Linked db t entry profileId where
  unpolled : db.players.find? profileId = none
  rated : settledGames db t bound profileId ≠ []

/-- Once the window has closed, a listed entrant outranks each one that is held
back. -/
def HeldBackOutranked (db : Database) (t : Tournament)
    (names : Dict Int String) (now : Instant) : Prop :=
  ∀ bound, closedBound t now = some bound → ∀ entry profileId,
    HeldBack db t bound entry profileId → ∃ other otherProfile,
      Listed db t other otherProfile ∧
        ∀ key ∈ ratingKey db t names now entry profileId,
          ∃ higher ∈ ratingKey db t names now other otherProfile, key < higher

section RatingCard

variable {db : Database} {t : Tournament} {names : Dict Int String}
  {now : Instant}

theorem rankMetricByProfile_get? {profileIds : List Int} {profileId : Int}
    (hmem : profileId ∈ profileIds) :
    ((rankMetricByProfile db t now profileIds).get? profileId).join =
      profileMetric db t now profileId := by
  unfold rankMetricByProfile profileMetric
  rcases frozenMetricByProfile_cases db t now profileIds with
    ⟨hopen, hfrozen⟩ | ⟨bound, frozen, hclosed, hfrozen, hget⟩
  · rw [hopen, hfrozen]
    simp only
    rw [Dict.get?_ofPairs_map (fun profileId =>
      (liveRating db t profileId).map (rankedRating t)) hmem]
    rfl
  · rw [hclosed, hfrozen]
    exact hget profileId hmem

theorem mem_summaryCandidates {candidate : SummaryCandidate} :
    candidate ∈ summaryCandidates db t names now ↔
      ∃ entry profileId, Linked db t entry profileId ∧
        candidate =
          { tournamentPlayerId := entry.id
            profileId := profileId
            name := resolveDisplayName entry.name entry.presentation
            record := tournamentRecordByProfile db t names profileId
            netRatingChange := netRatingChangeByProfile db t profileId
            rankMetric := profileMetric db t now profileId } := by
  have hroster : ∀ entry profileId, (entry, profileId) ∈
      (rosterEntries db t).filterMap (fun entry =>
        entry.profileId.map fun profileId => (entry, profileId)) ↔
      Linked db t entry profileId := by
    intro entry profileId
    simp only [List.mem_filterMap, Option.map_eq_some_iff, Prod.mk.injEq]
    constructor
    · rintro ⟨_, hentry, _, hprofile, rfl, rfl⟩
      obtain ⟨hmem, htournament⟩ := mem_rosterEntries.mp hentry
      exact ⟨hmem, htournament, hprofile⟩
    · rintro ⟨hmem, htournament, hprofile⟩
      exact ⟨entry, mem_rosterEntries.mpr ⟨hmem, htournament⟩, profileId,
        hprofile, rfl, rfl⟩
  rw [summaryCandidates]
  rw [List.mem_map]
  constructor
  · rintro ⟨⟨entry, profileId⟩, hpair, rfl⟩
    refine ⟨entry, profileId, (hroster entry profileId).mp hpair, ?_⟩
    rw [rankMetricByProfile_get? (List.mem_map_of_mem hpair)]
  · rintro ⟨entry, profileId, hlinked, rfl⟩
    have hpair := (hroster entry profileId).mpr hlinked
    refine ⟨(entry, profileId), hpair, ?_⟩
    rw [rankMetricByProfile_get? (List.mem_map_of_mem hpair)]

theorem ratingCard_getSummary (winPct : TournamentRecord → Option ℚ)
    (winRateMinGames : Nat) :
    (getSummary winPct db t names now winRateMinGames).ratingCard t =
      pickLeader (summaryCandidates db t names now) (·.rankMetric) := by
  rw [getSummary]
  by_cases hempty : (summaryCandidates db t names now).isEmpty
  · have hnone : pickLeader (summaryCandidates db t names now) (·.rankMetric) =
        none := by
      rw [List.isEmpty_iff.mp hempty]
      rfl
    rw [if_pos hempty, hnone, TournamentSummary.ratingCard]
    cases t.rankBy <;> rfl
  · rw [if_neg hempty, TournamentSummary.ratingCard]
    cases hrank : t.rankBy <;> simp

theorem ratingCard_eq_none_iff :
    pickLeader (summaryCandidates db t names now) (·.rankMetric) = none ↔
      ∀ entry profileId, Linked db t entry profileId →
        profileMetric db t now profileId = none := by
  rw [pickLeader_eq_none_iff]
  constructor
  · intro hnone entry profileId hlinked
    exact hnone _ (mem_summaryCandidates.mpr ⟨entry, profileId, hlinked, rfl⟩)
  · rintro hnone _ hcandidate
    obtain ⟨entry, profileId, hlinked, rfl⟩ :=
      mem_summaryCandidates.mp hcandidate
    exact hnone entry profileId hlinked

theorem ratingKey_of_metric (entry : TournamentPlayer) {profileId value : Int}
    (hmetric : profileMetric db t now profileId = some value) :
    ratingKey db t names now entry profileId = some (toLex (value, toLex
      ((tournamentRecordByProfile db t names profileId).gamesPlayed,
        -entry.id))) := by
  rw [ratingKey, hmetric, Option.map_some]

/-- The card names a linked entrant that none outranks. -/
theorem ratingCard_eq_some {card : SummaryCard Int}
    (hcard : pickLeader (summaryCandidates db t names now) (·.rankMetric) =
      some card) :
    ∃ entry profileId, Linked db t entry profileId ∧
      entry.id = card.tournamentPlayerId ∧
        profileMetric db t now profileId = some card.value ∧
          ∃ top, ratingKey db t names now entry profileId = some top ∧
            ∀ other otherProfile, Linked db t other otherProfile →
              ∀ key, ratingKey db t names now other otherProfile = some key →
                key ≤ top := by
  obtain ⟨leader, hleader, hmetric, hid, hgreatest⟩ := pickLeader_eq_some hcard
  obtain ⟨entry, profileId, hlinked, rfl⟩ := mem_summaryCandidates.mp hleader
  refine ⟨entry, profileId, hlinked, hid, hmetric, _,
    ratingKey_of_metric entry hmetric,
    fun other otherProfile hother key hkey => ?_⟩
  obtain ⟨value, hvalue, rfl⟩ := Option.map_eq_some_iff.mp hkey
  exact hgreatest _
    (mem_summaryCandidates.mpr ⟨other, otherProfile, hother, rfl⟩) value hvalue

theorem tableMetric_rosterRow {entry : TournamentPlayer} {profileId : Int}
    (hprofile : entry.profileId = some profileId)
    (hplayer : (db.players.find? profileId).isSome) :
    tableMetric db t now (rosterRow db t entry) =
      profileMetric db t now profileId := by
  unfold tableMetric profileMetric
  rw [rating_rosterRow hprofile hplayer]
  cases closedBound t now with
  | none => rfl
  | some bound =>
      have hentry : (rosterRow db t entry).entry = entry := rfl
      rw [hentry, hprofile]
      rfl

theorem tableMetric_unlinked {entry : TournamentPlayer}
    (hprofile : entry.profileId = none) :
    tableMetric db t now (rosterRow db t entry) = none := by
  rw [tableMetric]
  cases closedBound t now <;> simp [rosterRow, hprofile]

theorem visible_rosterRow {entry : TournamentPlayer} {profileId : Int}
    (hprofile : entry.profileId = some profileId) :
    (rosterRow db t entry).visible = true ↔
      (db.players.find? profileId).isSome := by
  simp [RosterRow.visible, rosterRow, hprofile]

/-- A row of the table with a rating is that of a listed entrant, and the
other way round. -/
theorem mem_items_iff (hdb : db.Consistent) {id value : Int} :
    (∃ row ∈ (getStandings db t names now).items,
        row.tournamentPlayerId = id ∧ row.ranked t = some value) ↔
      ∃ entry profileId, Listed db t entry profileId ∧ entry.id = id ∧
        profileMetric db t now profileId = some value := by
  simp only [getStandings, List.mem_map, orderedRows_eq hdb.name_unique,
    mem_sortBy]
  constructor
  · rintro ⟨_, ⟨row, hrow, rfl⟩, hid, hvalue⟩
    rw [ranked_standingRow names hrow] at hvalue
    rw [tournamentPlayerId_standingRow] at hid
    obtain ⟨entry, hmem, htournament, rfl, hvisible⟩ := mem_rosterRows.mp hrow
    cases hprofile : entry.profileId with
    | none =>
        rw [tableMetric_unlinked hprofile] at hvalue
        cases hvalue
    | some profileId =>
        have hplayer := (visible_rosterRow hprofile).mp hvisible
        rw [tableMetric_rosterRow hprofile hplayer] at hvalue
        exact ⟨entry, profileId, ⟨⟨hmem, htournament, hprofile⟩, hplayer⟩, hid,
          hvalue⟩
  · rintro ⟨entry, profileId, hlisted, rfl, hvalue⟩
    have hrow : rosterRow db t entry ∈ rosterRows db t :=
      mem_rosterRows.mpr ⟨entry, hlisted.mem, hlisted.tournament, rfl,
        (visible_rosterRow hlisted.profile).mpr hlisted.polled⟩
    refine ⟨_, ⟨_, hrow, rfl⟩, tournamentPlayerId_standingRow _ _ _ _ _, ?_⟩
    rw [ranked_standingRow names hrow,
      tableMetric_rosterRow hlisted.profile hlisted.polled]
    exact hvalue

theorem unrated_of_unpolled (hdb : db.Consistent) {profileId : Int}
    (hunpolled : db.players.find? profileId = none) :
    liveRating db t profileId = none ∧ snapshotsOf db t profileId = [] := by
  constructor
  · by_contra hrating
    obtain ⟨rating, hfind⟩ := Option.ne_none_iff_exists'.mp hrating
    have hplayer := hdb.rating_player rating (db.playerRatings.mem_of_find? hfind)
    have hkey := congrArg Prod.fst (db.playerRatings.key_of_find? hfind)
    rw [show rating.profileId = profileId from hkey, hunpolled] at hplayer
    cases hplayer
  · rw [snapshotsOf, List.filter_eq_nil_iff]
    intro snapshot hmem hfields
    simp only [Bool.and_eq_true, decide_eq_true_eq] at hfields
    have hplayer := hdb.snapshot_player snapshot hmem
    rw [hfields.1, hunpolled] at hplayer
    cases hplayer

theorem frozenMetric_of_unpolled (hdb : db.Consistent) {profileId : Int}
    (hunpolled : db.players.find? profileId = none) (bound : Instant) :
    (frozenMetric db t bound profileId).isSome ↔
      settledGames db t bound profileId ≠ [] := by
  obtain ⟨hlive, hsnapshots⟩ := unrated_of_unpolled (t := t) hdb hunpolled
  rw [frozenMetric]
  cases t.rankBy with
  | currentRating =>
      simp only
      constructor
      · intro hsome hnil
        simp [frozenCurrent, hlive, hsnapshots, hnil, sortBy] at hsome
      · intro hrated
        obtain ⟨current, _, hread⟩ :=
          frozenCurrent_of_ratedBy (Or.inl hrated : RatedBy db t bound profileId)
        rw [hread]
        rfl
  | peakRating =>
      have hpeak : frozenPeak db t bound profileId =
          ((settledGames db t bound profileId).filterMap
            (·.row.newRating)).max? := by
        unfold frozenPeak recordedPeak
        rw [hlive, hsnapshots]
        cases ((settledGames db t bound profileId).filterMap
          (·.row.newRating)).max? <;> rfl
      simp only
      rw [hpeak, List.isSome_max?_iff, ne_eq, List.filterMap_eq_nil_iff]
      constructor
      · intro hsome hnil
        simp [hnil] at hsome
      · intro hrated hnone
        obtain ⟨game, hgame⟩ := List.exists_mem_of_ne_nil _ hrated
        obtain ⟨_, _, _, _, hsettled⟩ := mem_settledGames hgame
        rw [hnone game hgame] at hsettled
        cases hsettled

/-- With the window open a rated entrant is listed, and afterwards one that is
not is held back. -/
theorem listed_or_heldBack (hdb : db.Consistent) {entry : TournamentPlayer}
    {profileId value : Int} (hlinked : Linked db t entry profileId)
    (hmetric : profileMetric db t now profileId = some value) :
    Listed db t entry profileId ∨ ∃ bound, closedBound t now = some bound ∧
      HeldBack db t bound entry profileId := by
  cases hplayer : db.players.find? profileId with
  | some player =>
      exact Or.inl ⟨hlinked, by rw [hplayer]; rfl⟩
  | none =>
      right
      rw [profileMetric] at hmetric
      cases hclosed : closedBound t now with
      | none =>
          rw [hclosed, (unrated_of_unpolled hdb hplayer).1] at hmetric
          cases hmetric
      | some bound =>
          rw [hclosed] at hmetric
          refine ⟨bound, rfl, hlinked, hplayer, ?_⟩
          rw [← frozenMetric_of_unpolled hdb hplayer]
          exact Option.isSome_iff_exists.mpr ⟨value, hmetric⟩

theorem Linked.eq_of_id {left right : TournamentPlayer} {leftProfile rightProfile : Int}
    (hleft : Linked db t left leftProfile)
    (hright : Linked db t right rightProfile) (hid : left.id = right.id) :
    left = right ∧ leftProfile = rightProfile := by
  obtain rfl := db.tournamentPlayers.eq_of_key_eq hleft.mem hright.mem hid
  exact ⟨rfl, Option.some.inj (hleft.profile.symm.trans hright.profile)⟩

/-- Where the card is the top of the table, its entrant is listed and outranks
those held back. -/
theorem heldBackOutranked_of_top (hdb : db.Consistent)
    (htop : TopOfTable t
      (pickLeader (summaryCandidates db t names now) (·.rankMetric))
      (getStandings db t names now).items) :
    HeldBackOutranked db t names now := by
  intro bound hclosed entry profileId hheld
  have hmetric : (profileMetric db t now profileId).isSome := by
    rw [profileMetric, hclosed]
    exact (frozenMetric_of_unpolled hdb hheld.unpolled bound).mpr hheld.rated
  cases hcard : pickLeader (summaryCandidates db t names now)
      (·.rankMetric) with
  | none =>
      rw [ratingCard_eq_none_iff.mp hcard entry profileId hheld.toLinked]
        at hmetric
      cases hmetric
  | some card =>
      obtain ⟨leader, leaderProfile, hlinked, hid, hleads, top, hkey,
        hgreatest⟩ := ratingCard_eq_some hcard
      obtain ⟨other, otherProfile, hlisted, hother, _⟩ :=
        (mem_items_iff hdb).mp (htop.top card hcard).1
      obtain ⟨rfl, rfl⟩ :=
        hlisted.toLinked.eq_of_id hlinked (hother.trans hid.symm)
      refine ⟨other, otherProfile, hlisted, fun key hheldKey => ⟨top, hkey, ?_⟩⟩
      refine lt_of_le_of_ne (hgreatest entry profileId hheld.toLinked key
        hheldKey) fun heq => ?_
      obtain ⟨value, _, rfl⟩ := Option.map_eq_some_iff.mp hheldKey
      rw [ratingKey_of_metric other hleads, Option.some.injEq, ← heq] at hkey
      have hsame : -other.id = -entry.id :=
        congrArg (fun key => (ofLex (ofLex key).2).2) hkey
      obtain ⟨_, rfl⟩ := hlisted.toLinked.eq_of_id hheld.toLinked (by omega)
      have hpolled := hlisted.polled
      rw [hheld.unpolled] at hpolled
      cases hpolled

/-- Where the entrants held back are outranked, an entrant that none outranks
is listed. -/
theorem listed_of_outranked (hdb : db.Consistent)
    (houtranked : HeldBackOutranked db t names now) {leader : TournamentPlayer}
    {leaderProfile value : Int} {top : Int ×ₗ Nat ×ₗ Int}
    (hlinked : Linked db t leader leaderProfile)
    (hmetric : profileMetric db t now leaderProfile = some value)
    (hkey : ratingKey db t names now leader leaderProfile = some top)
    (hgreatest : ∀ other otherProfile, Linked db t other otherProfile →
      ∀ key, ratingKey db t names now other otherProfile = some key →
        key ≤ top) :
    Listed db t leader leaderProfile := by
  rcases listed_or_heldBack hdb hlinked hmetric with
    hlisted | ⟨bound, hclosed, hheld⟩
  · exact hlisted
  · obtain ⟨other, otherProfile, hother, hhigher⟩ :=
      houtranked bound hclosed leader leaderProfile hheld
    obtain ⟨higher, hhigherKey, hlt⟩ := hhigher top hkey
    exact absurd hlt (not_lt.mpr
      (hgreatest other otherProfile hother.toLinked higher hhigherKey))

/-- Where those held back are outranked, the card's value is the greatest of
the table. -/
theorem topOfTable_of_outranked (hdb : db.Consistent)
    (houtranked : HeldBackOutranked db t names now) :
    TopOfTable t
      (pickLeader (summaryCandidates db t names now) (·.rankMetric))
      (getStandings db t names now).items := by
  cases hcard : pickLeader (summaryCandidates db t names now)
      (·.rankMetric) with
  | none =>
      refine ⟨⟨fun _ row hrow => ?_, fun _ => rfl⟩, fun _ hsome => by cases hsome⟩
      by_contra hranked
      obtain ⟨value, hvalue⟩ := Option.ne_none_iff_exists'.mp hranked
      obtain ⟨entry, profileId, hlisted, _, hmetric⟩ :=
        (mem_items_iff hdb).mp ⟨row, hrow, rfl, hvalue⟩
      rw [ratingCard_eq_none_iff.mp hcard entry profileId hlisted.toLinked]
        at hmetric
      cases hmetric
  | some card =>
      obtain ⟨leader, leaderProfile, hlinked, hid, hleads, top, hkey,
        hgreatest⟩ := ratingCard_eq_some hcard
      have hlisted :=
        listed_of_outranked hdb houtranked hlinked hleads hkey hgreatest
      obtain ⟨row, hrow, hrowId, hrowValue⟩ := (mem_items_iff hdb).mpr
        ⟨leader, leaderProfile, hlisted, hid, hleads⟩
      constructor
      · constructor
        · intro hsome
          cases hsome
        · intro hnone
          rw [hnone row hrow] at hrowValue
          cases hrowValue
      · intro named hnamed
        cases hnamed
        refine ⟨⟨row, hrow, hrowId, hrowValue⟩, fun other hother value hvalue => ?_⟩
        obtain ⟨entry, profileId, hentry, _, hmetric⟩ :=
          (mem_items_iff hdb).mp ⟨other, hother, rfl, hvalue⟩
        have hle := hgreatest entry profileId hentry.toLinked _
          (ratingKey_of_metric entry hmetric)
        rw [ratingKey_of_metric leader hleads, Option.some.injEq] at hkey
        rw [← hkey] at hle
        exact (Prod.Lex.toLex_le_toLex'.mp hle).1

end RatingCard

/-- The rating card is the top of the table if and only if, once the window has
closed, a listed entrant outranks each one that is held back. -/
theorem rating_card_top_iff {db : Database} (hdb : db.Consistent)
    (t : Tournament) (names : Dict Int String) (now : Instant)
    (winPct : TournamentRecord → Option ℚ) (winRateMinGames : Nat) :
    TopOfTable t
        ((getSummary winPct db t names now winRateMinGames).ratingCard t)
        (getStandings db t names now).items ↔
      HeldBackOutranked db t names now := by
  rw [ratingCard_getSummary]
  exact ⟨heldBackOutranked_of_top hdb, topOfTable_of_outranked hdb⟩

namespace SummaryWitness

open Factory

/-- The window closed at two seconds. -/
def cup : Tournament := makeTournament .peakRating none (some 2000000)

/-- Two linked entrants that nothing is known of yet. -/
def entered : Database :=
  { Database.empty with
    tournamentPlayers :=
      Table.empty.insertAll [makeEntry 1 "p1", makeEntry 2 "p2"] }

theorem entered_consistent : entered.Consistent := by
  constructor <;> decide

/-- The first entrant's rating. -/
def stats : Json :=
  .obj [("statGroups", .arr [.obj [("id", .int 7),
      ("members", .arr [.obj [("profile_id", .int 1)]])]]),
    ("leaderboardStats", .arr [.obj [("statgroup_id", .int 7),
      ("leaderboard_id", .int 3), ("rating", .int 1000),
      ("highestrating", .int 1100)]])]

/-- A rated game the two entrants played against each other. -/
def game : Json :=
  .obj [("matchHistoryStats", .arr [.obj [("id", .int 1),
    ("mapname", .str "x.rms"), ("matchtype_id", .int 6),
    ("startgametime", .int 1), ("completiontime", .int 2),
    ("matchhistorymember", .arr [
      .obj [("profile_id", .int 1), ("newrating", .int 1000)],
      .obj [("profile_id", .int 2), ("newrating", .int 1250)]]),
    ("matchhistoryreportresults", .arr [
      .obj [("profile_id", .int 1), ("teamid", .int 0), ("resulttype", .int 0)],
      .obj [("profile_id", .int 2), ("teamid", .int 1),
        ("resulttype", .int 1)]])]])]

/-- The first entrant is polled and its games are fetched; the second has been
linked, and its player not polled yet. -/
def ticks : List Tick :=
  [.playerStats 500000 [1] (.payload stats),
    .recentMatches 3000000 [(1, .payload game)]]

/-- Both entrants polled. -/
def bothPolled : Database :=
  seed [makePlayerRating 1 1000 1100, makePlayerRating 2 1250 1250] [] [] []

theorem bothPolled_consistent : bothPolled.Consistent := by
  constructor <;> decide

end SummaryWitness

open SummaryWitness in
/-- With both entrants polled the card is the top of the table. -/
theorem rating_card_top_iff_polled :
    TopOfTable cup ((getSummary (fun _ => none) bothPolled cup [] 3000000
        1).ratingCard cup) (getStandings bothPolled cup [] 3000000).items := by
  refine (rating_card_top_iff bothPolled_consistent cup [] 3000000 _ 1).mpr ?_
  intro bound hclosed entry profileId hheld
  have hnogame : settledGames bothPolled cup bound profileId = [] := rfl
  exact absurd hnogame hheld.rated

open BatchWitness SummaryWitness in
/-- After the window the card names an entrant that the table holds back. -/
theorem held_back_entrant_leads :
    ¬ ∀ (codec : Codec) (mapping : Dict Int Int) (start : Database)
      (ticks : List Tick) (t : Tournament) (names : Dict Int String)
      (now : Instant) (winPct : TournamentRecord → Option ℚ)
      (winRateMinGames : Nat), start.Consistent →
        let db := ticks.foldl (fun db tick => tick.commit codec mapping db) start
        TopOfTable t
          ((getSummary winPct db t names now winRateMinGames).ratingCard t)
          (getStandings db t names now).items := by
  intro hclaim
  have htop := hclaim codec [(6, 3)] entered ticks cup [] 3000000
    (fun _ => none) 1 entered_consistent
  obtain ⟨⟨row, hrow, hid, _⟩, _⟩ :=
    htop.top ⟨2, 2, "p2", 1250⟩ (by decide)
  have hids : (getStandings (ticks.foldl
      (fun db tick => tick.commit codec [(6, 3)] db) entered) cup []
        3000000).items.map (·.tournamentPlayerId) = [1] := by decide
  have hlisted := List.mem_map_of_mem (f := (·.tournamentPlayerId)) hrow
  rw [hids, hid] at hlisted
  exact absurd hlisted (by decide)

end LiveStandings
