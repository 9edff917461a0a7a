/-
The record and the head-to-head feed over runs of the pollers.  A player row
keeps the outcome it was first reported with, and a match is completed when it
was last reported so; two entrants' match counts in their records and in the
feed alike exactly when these two reports agree.
-/
import LiveStandings.HeadToHead
import LiveStandings.MatchPlayerRows
import LiveStandings.MatchTags
import LiveStandings.NudgeScope
import LiveStandings.Library.Runs

namespace LiveStandings

open KeyedTable PyJson Fallible Runs

/-- A step of the service: a poller's tick under the mapping of its moment, or
anything that writes neither matches nor their players. -/
inductive FeedStep (codec : Codec) :
    Database → Option (Dict Int Int × Tick) → Database → Prop where
  | tick {db : Database} {mapping : Dict Int Int} {tick : Tick} :
      FeedStep codec db (some (mapping, tick)) (tick.commit codec mapping db)
  | other {db db' : Database} :
      db'.matchTable = db.matchTable → db'.matchPlayers = db.matchPlayers →
      FeedStep codec db none db'

/-- The recent-matches cycle a step is, if it is one. -/
def recentPoll? : Option (Dict Int Int × Tick) → Option RecentPoll
  | some (mapping, .recentMatches now batch) => some ⟨mapping, now, batch⟩
  | _ => none

/-- The recent-matches payloads stored in the steps of a run. -/
def payloadsOf (codec : Codec) (steps : List (Option (Dict Int Int × Tick))) :
    List RecentRows :=
  storedPayloads codec (steps.filterMap recentPoll?)

/-- What payloads last report of a match. -/
def lastReport (matchId : Int) (payloads : List RecentRows) : Option Match :=
  lastUnder Match.matchId matchId (payloads.flatMap (·.matchRows))

/-- The first report of a player of a match has an outcome just if the last
report of the match has it completed. -/
def SettledWithMatch (payloads : List RecentRows) (matchId profileId : Int) :
    Prop :=
  (∃ row, (reportsOf (matchId, profileId) payloads).head? = some row ∧
      row.outcome.isSome) ↔
    ∃ m, lastReport matchId payloads = some m ∧ m.state = .completed

/-- The records of two entrants and the head-to-head feed count a match alike,
and where a record lists it the opponent has its roster id. -/
structure SameGames (db : Database) (t : Tournament) (names : Dict Int String)
    (matchId : Int) (left right : TournamentPlayer)
    (leftProfile rightProfile : Int) : Prop where
  leftCounted : CountedIn db t leftProfile matchId ↔ FeedSelects db t matchId
  rightCounted : CountedIn db t rightProfile matchId ↔ FeedSelects db t matchId
  leftLists : ListsOpponent db t names leftProfile matchId right rightProfile
  rightLists : ListsOpponent db t names rightProfile matchId left leftProfile

/-- A match is completed when it has a completion time. -/
def Match.Dated (m : Match) : Prop :=
  m.state = .completed ↔ m.completedAt.isSome

section Rows

variable {codec : Codec} {mapping : Dict Int Int} {now : Instant}

theorem parseMatch_dated {raw : Json} {data : MatchDict}
    (hparse : parseMatch codec mapping raw = .ok data) :
    data.state = .completed ↔ data.completedAt.isSome := by
  simp only [parseMatch, bind_eq_ok] at hparse
  obtain ⟨_, _, _, _, completedAt, _, _, _, _, _, _, _, _, _, _, _, _, _, _, _,
    _, _, hdata⟩ := hparse
  cases hdata
  cases completedAt <;> simp

theorem MatchDict.bind_state {data : MatchDict} {row : Match}
    (hbind : data.bind now = .ok row) :
    row.state = data.state ∧ row.completedAt = data.completedAt := by
  simp only [MatchDict.bind, bind_eq_ok] at hbind
  obtain ⟨_, _, _, _, _, _, _, _, _, _, _, _, hrow⟩ := hbind
  cases hrow
  exact ⟨rfl, rfl⟩

theorem boundRecent_dated {payload : Json} {rows : RecentRows}
    (hbound : boundRecent codec mapping now payload = .ok rows) {m : Match}
    (hm : m ∈ rows.matchRows) : m.Dated := by
  simp only [boundRecent, bind_eq_ok] at hbound
  obtain ⟨parsed, hparse, matchRows, hmatches, _, _, _, _, hrows⟩ := hbound
  cases hrows
  obtain ⟨data, hdata, hbind⟩ := exists_of_mem_mapM hmatches hm
  simp only [parseRecentMatches, bind_eq_ok] at hparse
  obtain ⟨_, _, _, _, _, _, _, _, _, _, pairs, hpairs, hparsed⟩ := hparse
  cases hparsed
  obtain ⟨pair, hpair, rfl⟩ := List.mem_map.mp hdata
  obtain ⟨raw, _, hentry⟩ := exists_of_mem_mapM hpairs hpair
  simp only [bind_eq_ok] at hentry
  obtain ⟨data, hmatch, _, _, hentry⟩ := hentry
  cases hentry
  obtain ⟨hstate, hcompleted⟩ := MatchDict.bind_state hbind
  rw [Match.Dated, hstate, hcompleted]
  exact parseMatch_dated hmatch

theorem storedPayloads_dated {polls : List RecentPoll} {payload : RecentRows}
    (hpayload : payload ∈ storedPayloads codec polls) {m : Match}
    (hm : m ∈ payload.matchRows) : m.Dated := by
  obtain ⟨poll, _, hmem⟩ := List.mem_flatMap.mp hpayload
  unfold RecentPoll.payloads at hmem
  split at hmem
  · obtain ⟨⟨profileId, fetch⟩, _, rfl⟩ := List.mem_map.mp hmem
    cases fetch with
    | failed => cases hm
    | payload payload =>
        simp only [fetchedRows] at hm
        split at hm
        · next rows hbound => exact boundRecent_dated hbound hm
        · cases hm
  · cases hmem

theorem parseAdvertisement_open {tracked : List Int} {ad : Json}
    {found : MatchDict × List LivePlayerDict}
    (hparse : parseAdvertisement codec tracked now ad = .ok (some found)) :
    found.1.state ≠ .completed ∧ found.1.completedAt = none := by
  simp only [parseAdvertisement, bind_eq_ok] at hparse
  obtain ⟨_, _, _, _, _, _, hparse⟩ := hparse
  split at hparse
  · cases hparse
  · simp only [bind_eq_ok] at hparse
    obtain ⟨_, _, _, _, hparse⟩ := hparse
    split at hparse
    · cases hparse
    · simp only [bind_eq_ok] at hparse
      obtain ⟨_, _, _, _, _, _, _, _, _, _, _, _, state, _, hfound⟩ := hparse
      cases hfound
      refine ⟨?_, rfl⟩
      simp only
      split <;> simp

theorem boundLive_open {profileIds : List Int} {payload : Json}
    {rows : List Match} {links : List LiveMatchPlayer}
    (hbound : boundLive codec now profileIds payload = .ok (rows, links))
    {m : Match} (hm : m ∈ rows) :
    m.state ≠ .completed ∧ m.completedAt = none := by
  simp only [boundLive, bind_eq_ok] at hbound
  obtain ⟨parsed, hparse, bound, hrows, _, _, hpair⟩ := hbound
  cases hpair
  obtain ⟨data, hdata, hbind⟩ := exists_of_mem_mapM hrows hm
  simp only [parseLiveAdvertisements, bind_eq_ok] at hparse
  obtain ⟨_, _, _, _, ads, _, found, hfound, hparsed⟩ := hparse
  cases hparsed
  obtain ⟨lobby, hlobby, rfl⟩ := List.mem_map.mp hdata
  obtain ⟨parsed, hmem, hsome⟩ := List.mem_filterMap.mp hlobby
  obtain ⟨ad, _, had⟩ := exists_of_mem_mapM hfound hmem
  rw [id_eq] at hsome
  rw [hsome] at had
  obtain ⟨hstate, hcompleted⟩ := MatchDict.bind_state hbind
  rw [hstate, hcompleted]
  exact parseAdvertisement_open had

end Rows

/-- The stored row of a match after lobbies, compared with the one before: no
lobby completes a match, and no completion is lost. -/
structure KeepsCompletion (before after : Option Match) : Prop where
  dated : (∀ m, before = some m → m.Dated) → ∀ m, after = some m → m.Dated
  completedAt : after.bind (·.completedAt) = before.bind (·.completedAt)

theorem keepsCompletion_live {row : Match} (hstate : row.state ≠ .completed)
    (hcompleted : row.completedAt = none) (db : Database) (matchId : Int) :
    KeepsCompletion (db.matchTable.find? matchId)
      ((upsertMatchFromLive db row).matchTable.find? matchId) := by
  have hopen : ∀ {m : Match}, m.state ≠ .completed → m.completedAt = none →
      m.Dated := by
    intro m hstate hnone
    exact ⟨fun h => absurd h hstate, fun h => by simp [hnone] at h⟩
  rw [upsertMatchFromLive, Table.find?_upsert]
  by_cases hid : row.matchId = matchId
  · rw [if_pos hid]
    cases db.matchTable.find? matchId with
    | none =>
        refine ⟨fun _ m hm => ?_, hcompleted⟩
        cases hm
        exact hopen hstate hcompleted
    | some stored =>
        simp only [KeyedTable.written, Match.observedLive]
        cases hstored : stored.completedAt with
        | none =>
            refine ⟨fun _ m hm => ?_, by simp [hstored]⟩
            simp only [Option.isNone_none, if_true, Option.some.injEq] at hm
            subst hm
            exact hopen hstate rfl
        | some completedAt => exact ⟨fun hdated => by simpa using hdated, by simp⟩
  · rw [if_neg hid]
    exact ⟨id, rfl⟩

theorem keepsCompletion_lobbies {rows : List Match}
    (hopen : ∀ m ∈ rows, m.state ≠ .completed ∧ m.completedAt = none)
    (db : Database) (matchId : Int) :
    KeepsCompletion (db.matchTable.find? matchId)
      ((rows.foldl upsertMatchFromLive db).matchTable.find? matchId) := by
  induction rows generalizing db with
  | nil => exact ⟨id, rfl⟩
  | cons row rows ih =>
      have hrow := hopen row List.mem_cons_self
      have hfirst := keepsCompletion_live hrow.1 hrow.2 db matchId
      have hrest := ih (fun m hm => hopen m (List.mem_cons_of_mem _ hm))
        (upsertMatchFromLive db row)
      exact ⟨fun hdated => hrest.dated (hfirst.dated hdated),
        hrest.completedAt.trans hfirst.completedAt⟩

/-- To the match tables a tick is a recent-matches cycle, or some lobbies. -/
theorem Tick.commit_matchTables (codec : Codec) (mapping : Dict Int Int)
    (db : Database) (tick : Tick) :
    (∃ poll, recentPoll? (some (mapping, tick)) = some poll ∧
        tick.commit codec mapping db = poll.commit codec db) ∨
      recentPoll? (some (mapping, tick)) = none ∧
        (tick.commit codec mapping db).matchPlayers = db.matchPlayers ∧
          ∃ rows : List Match,
            (∀ m ∈ rows, m.state ≠ .completed ∧ m.completedAt = none) ∧
              (tick.commit codec mapping db).matchTable =
                (rows.foldl upsertMatchFromLive db).matchTable := by
  have hlobbies : (∀ now batch, tick ≠ .recentMatches now batch) →
      (tick.commit codec mapping db).matchPlayers = db.matchPlayers ∧
        ∃ rows : List Match,
          (∀ m ∈ rows, m.state ≠ .completed ∧ m.completedAt = none) ∧
            (tick.commit codec mapping db).matchTable =
              (rows.foldl upsertMatchFromLive db).matchTable := by
    intro hother
    obtain ⟨hplayers, rows, hrows, hmatches⟩ :=
      Tick.commit_lobbies codec mapping db hother
    refine ⟨hplayers, rows, ?_, hmatches⟩
    rcases hrows with rfl | ⟨_, _, _, _, hbound⟩
    · exact fun _ hm => nomatch hm
    · exact fun m => boundLive_open hbound
  cases tick with
  | recentMatches now batch => exact Or.inl ⟨_, rfl, rfl⟩
  | playerStats now profileIds response =>
      exact Or.inr ⟨rfl, hlobbies fun _ _ => nofun⟩
  | liveMatches now profileIds response =>
      exact Or.inr ⟨rfl, hlobbies fun _ _ => nofun⟩

/-- What the steps of a run have left in the match tables: of a player the
first report, of a match the completion last reported. -/
structure Fed (codec : Codec) (steps : List (Option (Dict Int Int × Tick)))
    (db : Database) : Prop where
  players : ∀ key, db.matchPlayers.find? key =
    (reportsOf key (payloadsOf codec steps)).head?
  dated : ∀ matchId m, db.matchTable.find? matchId = some m → m.Dated
  completedAt : ∀ matchId,
    (db.matchTable.find? matchId).bind (·.completedAt) =
      (lastReport matchId (payloadsOf codec steps)).bind (·.completedAt)

section Feed

variable {codec : Codec} {db db' : Database}
  {steps : List (Option (Dict Int Int × Tick))}

theorem payloadsOf_snoc (step : Option (Dict Int Int × Tick)) :
    payloadsOf codec (steps ++ [step]) =
      payloadsOf codec steps ++ storedPayloads codec (recentPoll? step).toList := by
  rw [payloadsOf, List.filterMap_append, storedPayloads, List.flatMap_append]
  cases hpoll : recentPoll? step <;> simp [hpoll, payloadsOf, storedPayloads]

theorem lastReport_append (matchId : Int) (earlier later : List RecentRows) :
    lastReport matchId (earlier ++ later) =
      (lastReport matchId later).or (lastReport matchId earlier) := by
  rw [lastReport, List.flatMap_append, lastUnder, List.reverse_append,
    List.find?_append]
  rfl

theorem head?_reportsOf_append (key : Int × Int)
    (earlier later : List RecentRows) :
    (reportsOf key (earlier ++ later)).head? =
      (reportsOf key earlier).head?.or (reportsOf key later).head? := by
  rw [reportsOf, List.flatMap_append, List.filter_append, List.head?_append]
  rfl

theorem mem_of_lastReport {matchId : Int} {payloads : List RecentRows}
    {m : Match} (hlast : lastReport matchId payloads = some m) :
    ∃ payload ∈ payloads, m ∈ payload.matchRows :=
  List.mem_flatMap.mp (mem_of_lastUnder hlast).1

theorem Fed.poll (hfed : Fed codec steps db) {poll : RecentPoll}
    {step : Option (Dict Int Int × Tick)}
    (hpoll : recentPoll? step = some poll) :
    Fed codec (steps ++ [step]) (poll.commit codec db) := by
  obtain ⟨hmatches, hplayers⟩ := tables_afterPolls codec [poll] db
  have hafter : afterPolls codec db [poll] = poll.commit codec db := rfl
  rw [hafter] at hmatches hplayers
  have hpayloads : payloadsOf codec (steps ++ [step]) =
      payloadsOf codec steps ++ storedPayloads codec [poll] := by
    rw [payloadsOf_snoc, hpoll]
    rfl
  have hfind : ∀ matchId, (poll.commit codec db).matchTable.find? matchId =
      (lastReport matchId (storedPayloads codec [poll])).or
        (db.matchTable.find? matchId) := by
    intro matchId
    rw [hmatches, Table.find?_overwriteAll]
    rfl
  constructor
  · intro key
    rw [hpayloads, head?_reportsOf_append, ← hfed.players, hplayers,
      Table.find?_insertAll, reportsOf, List.head?_filter]
  · intro matchId m hm
    rw [hfind] at hm
    cases hlast : lastReport matchId (storedPayloads codec [poll]) with
    | none =>
        rw [hlast] at hm
        exact hfed.dated matchId m hm
    | some last =>
        rw [hlast] at hm
        cases hm
        obtain ⟨payload, hpayload, hmem⟩ := mem_of_lastReport hlast
        exact storedPayloads_dated hpayload hmem
  · intro matchId
    rw [hfind, hpayloads, lastReport_append]
    cases lastReport matchId (storedPayloads codec [poll]) with
    | none => exact hfed.completedAt matchId
    | some last => rfl

theorem Fed.kept (hfed : Fed codec steps db)
    {step : Option (Dict Int Int × Tick)} (hpoll : recentPoll? step = none)
    (hplayers : db'.matchPlayers = db.matchPlayers)
    (hmatches : ∀ matchId, KeepsCompletion (db.matchTable.find? matchId)
      (db'.matchTable.find? matchId)) :
    Fed codec (steps ++ [step]) db' := by
  have hpayloads : payloadsOf codec (steps ++ [step]) =
      payloadsOf codec steps := by
    rw [payloadsOf_snoc, hpoll]
    exact List.append_nil _
  constructor
  · intro key
    rw [hplayers, hpayloads]
    exact hfed.players key
  · intro matchId
    exact (hmatches matchId).dated (hfed.dated matchId)
  · intro matchId
    rw [(hmatches matchId).completedAt, hpayloads]
    exact hfed.completedAt matchId

theorem Fed.step (hfed : Fed codec steps db)
    {step : Option (Dict Int Int × Tick)} (hstep : FeedStep codec db step db') :
    Fed codec (steps ++ [step]) db' := by
  cases hstep with
  | tick =>
      next mapping tick =>
      rcases tick.commit_matchTables codec mapping db with
        ⟨poll, hpoll, hcommit⟩ | ⟨hpoll, hplayers, rows, hopen, hmatches⟩
      · rw [hcommit]
        exact hfed.poll hpoll
      · refine hfed.kept hpoll hplayers fun matchId => ?_
        rw [hmatches]
        exact keepsCompletion_lobbies hopen db matchId
  | other hmatches hplayers =>
      refine hfed.kept rfl hplayers fun matchId => ?_
      rw [hmatches]
      exact ⟨id, rfl⟩

theorem Fed.of_run {start : Database} (hmatches : start.matchTable = .empty)
    (hplayers : start.matchPlayers = .empty)
    (hrun : Run (FeedStep codec) start steps db) : Fed codec steps db := by
  refine hrun.labelled_invariant (Fed codec) ⟨?_, ?_, ?_⟩
    fun _ _ _ _ hfed hstep => hfed.step hstep
  · intro key
    rw [hplayers]
    rfl
  · intro matchId m hm
    rw [hmatches] at hm
    cases hm
  · intro matchId
    rw [hmatches]
    rfl

theorem Fed.completed_iff (hfed : Fed codec steps db) {matchId : Int}
    {m : Match} (hstored : db.matchTable.find? matchId = some m) :
    m.state = .completed ↔ ∃ last,
      lastReport matchId (payloadsOf codec steps) = some last ∧
        last.state = .completed := by
  have hdate := hfed.completedAt matchId
  rw [hstored, Option.bind_some] at hdate
  have hdated : m.state = .completed ↔ m.completedAt.isSome :=
    hfed.dated matchId m hstored
  rw [hdated, hdate]
  cases hlast : lastReport matchId (payloadsOf codec steps) with
  | none => simp
  | some last =>
      obtain ⟨payload, hpayload, hmem⟩ := mem_of_lastReport hlast
      have hlastDated : last.state = .completed ↔ last.completedAt.isSome :=
        storedPayloads_dated hpayload hmem
      rw [Option.bind_some, ← hlastDated]
      simp

end Feed

/-- In every state the pollers reach, a match that two entrants faced each
other in counts in their records and in the head-to-head feed alike if and only
if the first report of each of the two has an outcome just when the last report
of the match has it completed. -/
theorem same_games_iff (codec : Codec) {start db : Database}
    (hmatches : start.matchTable = .empty)
    (hplayers : start.matchPlayers = .empty)
    {steps : List (Option (Dict Int Int × Tick))}
    (hrun : Run (FeedStep codec) start steps db) (hdb : db.Consistent)
    {t : Tournament} (names : Dict Int String) {m : Match}
    {left right : TournamentPlayer} {row row' : MatchPlayer}
    (hfaced : Faced db t m left right row row') :
    SameGames db t names m.matchId left right row.profileId row'.profileId ↔
      SettledWithMatch (payloadsOf codec steps) m.matchId row.profileId ∧
        SettledWithMatch (payloadsOf codec steps) m.matchId row'.profileId := by
  have hfed := Fed.of_run hmatches hplayers hrun
  have hstate := hfed.completed_iff (db.matchTable.find?_key hfaced.stored)
  have hsettled : ∀ {entrant opponent : TournamentPlayer}
      {own other : MatchPlayer}, Faced db t m entrant opponent own other →
        ((CountedIn db t own.profileId m.matchId ↔
            FeedSelects db t m.matchId) ↔
          SettledWithMatch (payloadsOf codec steps) m.matchId own.profileId) := by
    intro entrant opponent own other hfaced
    have hkey : own.key = (m.matchId, own.profileId) := by
      rw [MatchPlayer.key, hfaced.leftMatch]
    have hfirst := hfed.players (m.matchId, own.profileId)
    rw [← hkey, db.matchPlayers.find?_key hfaced.leftRow, hkey] at hfirst
    rw [countedIn_iff hfaced, feedSelects_iff hdb hfaced, hstate,
      SettledWithMatch, ← hfirst]
    simp
  constructor
  · intro hsame
    exact ⟨(hsettled hfaced).mp hsame.leftCounted,
      (hsettled hfaced.symm).mp hsame.rightCounted⟩
  · rintro ⟨hleft, hright⟩
    exact ⟨(hsettled hfaced).mpr hleft, (hsettled hfaced.symm).mpr hright,
      listsOpponent_of_faced hdb names hfaced,
      listsOpponent_of_faced hdb names hfaced.symm⟩

namespace SameGamesWitness

open Factory BatchWitness

def cup : Tournament := makeTournament .peakRating none none

/-- The two entrants of the cup, and no match yet. -/
def entered : Database :=
  { Database.empty with
    tournamentPlayers :=
      Table.empty.insertAll [makeEntry 1 "p1", makeEntry 2 "p2"] }

/-- The entrants' match as a payload reports it, with the fields that are only
there once it has ended. -/
def payload (ended won lost : List (String × Json)) : Json :=
  .obj [("matchHistoryStats", .arr [.obj ([("id", .int 1),
    ("mapname", .str "x.rms"), ("matchtype_id", .int 6),
    ("startgametime", .int 1),
    ("matchhistoryreportresults", .arr [
      .obj ([("profile_id", .int 1), ("teamid", .int 0)] ++ won),
      .obj ([("profile_id", .int 2), ("teamid", .int 1)] ++ lost)])] ++
    ended)])]

def inProgress : Json := payload [] [] []

def finished : Json :=
  payload [("completiontime", .int 2)] [("resulttype", .int 1)]
    [("resulttype", .int 0)]

def fetched (now : Instant) (payload : Json) : Tick :=
  .recentMatches now [(1, .payload payload)]

def afterTick (db : Database) (tick : Tick) : Database :=
  tick.commit codec [(6, 3)] db

/-- The match is first seen when it has ended. -/
def seenEnded : Database := afterTick entered (fetched 3000000 finished)

/-- The match is first seen while it is played. -/
def seenPlayed : Database :=
  afterTick (afterTick entered (fetched 1500000 inProgress))
    (fetched 3000000 finished)

theorem seenEnded_consistent : seenEnded.Consistent := by
  constructor <;> decide

theorem seenPlayed_consistent : seenPlayed.Consistent := by
  constructor <;> decide

/-- The rows of the match and of its players. -/
def matchRow (stamp : Instant) : Match :=
  { makeMatch 1 1000000 2000000 with mapName := "x.rms", updatedAt := stamp }

def playerRow (profileId teamId : Int) (outcome : Option MatchOutcome) :
    MatchPlayer where
  matchId := 1
  profileId := profileId
  civilizationId := -1
  teamId := teamId
  outcome := outcome
  oldRating := none
  newRating := none
  xpGained := 0

theorem linked_of_roster {db : Database}
    (hroster : db.tournamentPlayers = entered.tournamentPlayers) :
    Linked db cup (makeEntry 1 "p1") 1 ∧ Linked db cup (makeEntry 2 "p2") 2 := by
  have hfirst : makeEntry 1 "p1" ∈ entered.tournamentPlayers.rows :=
    List.mem_cons_self
  have hsecond : makeEntry 2 "p2" ∈ entered.tournamentPlayers.rows :=
    List.mem_cons_of_mem _ List.mem_cons_self
  exact ⟨⟨hroster ▸ hfirst, rfl, rfl⟩, ⟨hroster ▸ hsecond, rfl, rfl⟩⟩

theorem seenEnded_faced :
    Faced seenEnded cup (matchRow 3000000) (makeEntry 1 "p1")
      (makeEntry 2 "p2") (playerRow 1 0 (some .win))
      (playerRow 2 1 (some .loss)) := by
  obtain ⟨hleft, hright⟩ := @linked_of_roster seenEnded rfl
  exact ⟨by decide, by decide, hleft, hright, by decide, by decide, rfl, rfl,
    by decide, by decide⟩

theorem seenPlayed_faced :
    Faced seenPlayed cup (matchRow 3000000) (makeEntry 1 "p1")
      (makeEntry 2 "p2") (playerRow 1 0 none) (playerRow 2 1 none) := by
  obtain ⟨hleft, hright⟩ := @linked_of_roster seenPlayed rfl
  exact ⟨by decide, by decide, hleft, hright, by decide, by decide, rfl, rfl,
    by decide, by decide⟩

/-- The steps that lead there. -/
def steps (ticks : List Tick) : List (Option (Dict Int Int × Tick)) :=
  ticks.map fun tick => some ([(6, 3)], tick)

theorem run_seenEnded :
    Run (FeedStep codec) entered (steps [fetched 3000000 finished])
      seenEnded :=
  .single .tick

theorem run_seenPlayed :
    Run (FeedStep codec) entered
      (steps [fetched 1500000 inProgress, fetched 3000000 finished])
      seenPlayed :=
  (Run.single .tick).snoc .tick

end SameGamesWitness

open SameGamesWitness BatchWitness in
/-- A match first seen when it has ended counts in both places. -/
theorem same_games_iff_ended :
    SameGames seenEnded cup [] 1 (Factory.makeEntry 1 "p1")
      (Factory.makeEntry 2 "p2") 1 2 := by
  refine (same_games_iff codec rfl rfl run_seenEnded seenEnded_consistent []
    seenEnded_faced).mpr ?_
  have hlast : ∃ m, lastReport 1 (payloadsOf codec
      (steps [fetched 3000000 finished])) = some m ∧ m.state = .completed :=
    ⟨matchRow 3000000, by decide, rfl⟩
  exact ⟨iff_of_true ⟨playerRow 1 0 (some .win), by decide, rfl⟩ hlast,
    iff_of_true ⟨playerRow 2 1 (some .loss), by decide, rfl⟩ hlast⟩

open SameGamesWitness BatchWitness in
/-- A match first seen while it was played is in the feed and in no record. -/
theorem record_misses_match_seen_in_progress :
    ¬ ∀ (codec : Codec) (start db : Database)
      (steps : List (Option (Dict Int Int × Tick))) (t : Tournament)
      (names : Dict Int String) (m : Match) (left right : TournamentPlayer)
      (row row' : MatchPlayer), start.matchTable = .empty →
        start.matchPlayers = .empty → Run (FeedStep codec) start steps db →
          db.Consistent → Faced db t m left right row row' →
            SameGames db t names m.matchId left right row.profileId
              row'.profileId := by
  intro hclaim
  have hsame := hclaim codec entered seenPlayed _ cup [] (matchRow 3000000)
    (Factory.makeEntry 1 "p1") (Factory.makeEntry 2 "p2") _ _ rfl rfl
    run_seenPlayed seenPlayed_consistent seenPlayed_faced
  have hselected : FeedSelects seenPlayed cup 1 :=
    (feedSelects_iff seenPlayed_consistent seenPlayed_faced).mpr rfl
  have hcounted := (countedIn_iff seenPlayed_faced).mp
    (hsame.leftCounted.mpr hselected)
  cases hcounted

end LiveStandings
