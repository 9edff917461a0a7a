/-
What recent-matches polls leave of a match player.  The match row is
overwritten by every poll and its player rows are inserted once, so a player
row has the values of the first poll that reports it: those are the settled
ones exactly when the first poll already came after the match was completed.
-/
import LiveStandings.BatchIsolation

namespace LiveStandings

open KeyedTable PyJson Fallible

/-- A cycle of the recent-matches poller: the map it reads, its time and what
it fetched. -/
structure RecentPoll where
  mapping : Dict Int Int
  now : Instant
  batch : List (Int × Fetch)

section Polls

variable (codec : Codec)

/-- The database after a poll. -/
def RecentPoll.commit (db : Database) (poll : RecentPoll) : Database :=
  committedState db
    (tickRecentMatches codec poll.mapping poll.now poll.batch db)

def afterPolls (db : Database) (polls : List RecentPoll) : Database :=
  polls.foldl (RecentPoll.commit codec) db

/-- The payloads a poll stores, as rows; a malformed one keeps out its whole
batch. -/
def RecentPoll.payloads (poll : RecentPoll) : List RecentRows :=
  if poll.batch.all fun result =>
      harmless codec poll.mapping poll.now result.2 then
    poll.batch.map fun result =>
      fetchedRows codec poll.mapping poll.now result.2
  else []

def storedPayloads (polls : List RecentPoll) : List RecentRows :=
  polls.flatMap (RecentPoll.payloads codec)

end Polls

/-- What payloads report of a player of a match. -/
def reportsOf (key : Int × Int) (payloads : List RecentRows) :
    List MatchPlayer :=
  (payloads.flatMap (·.players)).filter (·.key = key)

/-- Whether a payload reports a player of a match. -/
def RecentRows.reportsPlayer (key : Int × Int) (payload : RecentRows) : Bool :=
  payload.players.any (·.key = key)

/-- Whether a payload reports a match completed. -/
def RecentRows.reportsCompleted (matchId : Int) (payload : RecentRows) : Bool :=
  (lastUnder Match.matchId matchId payload.matchRows).any
    (·.state = .completed)

/-- The player row of a match converges.  Once the payloads report one outcome
and one rating, the stored row has them; and where the match is stored
completed, the payload that wrote the row reported it completed. -/
structure Converges (codec : Codec) (db : Database) (polls : List RecentPoll)
    (key : Int × Int) : Prop where
  settled : ∀ earlier later,
    reportsOf key (storedPayloads codec polls) = earlier ++ later →
      later ≠ [] → ∀ outcome newRating,
        (∀ row ∈ later, row.outcome = outcome ∧ row.newRating = newRating) →
          ∃ stored,
            (afterPolls codec db polls).matchPlayers.find? key = some stored ∧
              stored.outcome = outcome ∧ stored.newRating = newRating
  completed : ∀ m,
    (afterPolls codec db polls).matchTable.find? key.1 = some m →
      m.state = .completed → ∀ before payload after,
        storedPayloads codec polls = before ++ payload :: after →
          (before.foldl writeRecent db).matchPlayers.find? key = none →
          ((writeRecent (before.foldl writeRecent db)
            payload).matchPlayers.find? key).isSome →
            payload.reportsCompleted key.1

/-- The first that is known of a player, stored before the polls or reported
by them, is what the last payload reports; and where the polls leave the match
completed, the first payload that reports the player reports that too. -/
structure SettledAtFirst (codec : Codec) (db : Database)
    (polls : List RecentPoll) (key : Int × Int) : Prop where
  values : ∀ first last,
    (db.matchPlayers.find? key).or
        (reportsOf key (storedPayloads codec polls)).head? = some first →
      (reportsOf key (storedPayloads codec polls)).getLast? = some last →
        first.outcome = last.outcome ∧ first.newRating = last.newRating
  completed : db.matchPlayers.find? key = none → ∀ m,
    lastUnder Match.matchId key.1
        ((storedPayloads codec polls).flatMap (·.matchRows)) = some m →
      m.state = .completed → ∀ payload,
        (storedPayloads codec polls).find? (·.reportsPlayer key) =
            some payload →
          payload.reportsCompleted key.1

section Rows

variable {codec : Codec} {db : Database}

/-- Polls overwrite match rows and insert player rows, in their order. -/
theorem tables_afterPolls (codec : Codec) (polls : List RecentPoll)
    (db : Database) :
    (afterPolls codec db polls).matchTable =
        db.matchTable.overwriteAll
          ((storedPayloads codec polls).flatMap (·.matchRows)) ∧
      (afterPolls codec db polls).matchPlayers =
        db.matchPlayers.insertAll
          ((storedPayloads codec polls).flatMap (·.players)) := by
  induction polls generalizing db with
  | nil => exact ⟨rfl, rfl⟩
  | cons poll polls ih =>
      have htick : recentTables (poll.commit codec db) = _ :=
        recentTables_tick poll.batch db
      have hpayloads : storedPayloads codec (poll :: polls) =
          poll.payloads codec ++ storedPayloads codec polls :=
        List.flatMap_cons
      have htables := ih (poll.commit codec db)
      rw [hpayloads, List.flatMap_append, List.flatMap_append,
        Table.overwriteAll_append, Table.insertAll_append]
      split at htick
      · next hall =>
          have hmatches : (poll.commit codec db).matchTable =
              db.matchTable.overwriteAll
                ((poll.payloads codec).flatMap (·.matchRows)) := by
            rw [RecentPoll.payloads, if_pos hall, List.flatMap_map]
            exact congrArg Prod.fst htick
          have hplayers : (poll.commit codec db).matchPlayers =
              db.matchPlayers.insertAll
                ((poll.payloads codec).flatMap (·.players)) := by
            rw [RecentPoll.payloads, if_pos hall, List.flatMap_map]
            exact congrArg (·.2.1) htick
          rw [← hmatches, ← hplayers]
          exact htables
      · next hall =>
          have hnone : poll.payloads codec = [] := if_neg hall
          have hmatches : (poll.commit codec db).matchTable = db.matchTable :=
            congrArg Prod.fst htick
          have hplayers : (poll.commit codec db).matchPlayers =
              db.matchPlayers := congrArg (·.2.1) htick
          rw [hmatches, hplayers] at htables
          rw [hnone]
          exact htables

theorem matchPlayers_foldl_writeRecent (payloads : List RecentRows)
    (db : Database) :
    (payloads.foldl writeRecent db).matchPlayers =
      db.matchPlayers.insertAll (payloads.flatMap (·.players)) := by
  induction payloads generalizing db with
  | nil => rfl
  | cons payload payloads ih =>
      rw [List.foldl_cons, ih, List.flatMap_cons, Table.insertAll_append]
      rfl

theorem find?_afterPolls (codec : Codec) (db : Database)
    (polls : List RecentPoll) (key : Int × Int) :
    (afterPolls codec db polls).matchPlayers.find? key =
      (db.matchPlayers.find? key).or
        (reportsOf key (storedPayloads codec polls)).head? := by
  rw [(tables_afterPolls codec polls db).2, Table.find?_insertAll, reportsOf,
    List.head?_filter]

theorem matchRow_of_reportsPlayer {polls : List RecentPoll}
    {payload : RecentRows} (hpayload : payload ∈ storedPayloads codec polls)
    {key : Int × Int} (hreports : payload.reportsPlayer key) :
    ∃ m ∈ payload.matchRows, m.matchId = key.1 := by
  obtain ⟨row, hrow, hkey⟩ := List.any_eq_true.mp hreports
  obtain rfl : row.key = key := of_decide_eq_true hkey
  obtain ⟨poll, _, hmem⟩ := List.mem_flatMap.mp hpayload
  unfold RecentPoll.payloads at hmem
  split at hmem
  · obtain ⟨⟨profileId, fetch⟩, _, rfl⟩ := List.mem_map.mp hmem
    cases fetch with
    | failed => cases hrow
    | payload payload =>
        simp only [fetchedRows] at hrow ⊢
        split at hrow
        · next rows hbound => exact boundRecent_player hbound hrow
        · cases hrow
  · cases hmem

theorem find?_before_eq_none {payloads : List RecentRows} {key : Int × Int} :
    (payloads.foldl writeRecent db).matchPlayers.find? key = none ↔
      db.matchPlayers.find? key = none ∧
        ∀ payload ∈ payloads, payload.reportsPlayer key = false := by
  rw [matchPlayers_foldl_writeRecent, Table.find?_insertAll, Option.or_eq_none_iff,
    List.find?_eq_none]
  apply and_congr_right
  intro _
  simp only [List.mem_flatMap, forall_exists_index, and_imp,
    RecentRows.reportsPlayer, List.any_eq_false]
  exact ⟨fun hnone payload hpayload row hrow => hnone row payload hpayload hrow,
    fun hnone row payload hpayload hrow => hnone payload hpayload row hrow⟩

theorem writes_iff {before : List RecentRows} {payload : RecentRows}
    {key : Int × Int}
    (hnone : (before.foldl writeRecent db).matchPlayers.find? key = none) :
    ((writeRecent (before.foldl writeRecent db)
        payload).matchPlayers.find? key).isSome ↔
      payload.reportsPlayer key := by
  have hafter : (writeRecent (before.foldl writeRecent db)
      payload).matchPlayers.find? key =
        payload.players.find? fun row => decide (row.key = key) := by
    have hinsert := (before.foldl writeRecent db).matchPlayers.find?_insertAll
      payload.players key
    rw [hnone, Option.none_or] at hinsert
    exact hinsert
  rw [hafter, List.find?_isSome, RecentRows.reportsPlayer, List.any_eq_true]

end Rows

section Converges

variable {codec : Codec} {db : Database} {polls : List RecentPoll}
variable {key : Int × Int}

theorem Converges.settledAtFirst (hconverges : Converges codec db polls key) :
    SettledAtFirst codec db polls key := by
  constructor
  · intro first last hfirst hlast
    have hsplit := List.dropLast_append_getLast? last hlast
    obtain ⟨stored, hstored, houtcome, hrating⟩ :=
      hconverges.settled _ [last] hsplit.symm (List.cons_ne_nil _ _)
        last.outcome last.newRating (by simp)
    rw [find?_afterPolls, hfirst] at hstored
    cases hstored
    exact ⟨houtcome, hrating⟩
  · intro hnone m hlast hstate payload hpayload
    obtain ⟨hreports, before, after, hsplit, hbefore⟩ :=
      List.find?_eq_some_iff_append.mp hpayload
    have hstored : (afterPolls codec db polls).matchTable.find? key.1 =
        some m := by
      rw [(tables_afterPolls codec polls db).1, Table.find?_overwriteAll, hlast,
        Option.some_or]
    have hunwritten :
        (before.foldl writeRecent db).matchPlayers.find? key = none := by
      apply find?_before_eq_none.mpr
      exact ⟨hnone, fun payload hmem => by simpa using hbefore payload hmem⟩
    exact hconverges.completed m hstored hstate before payload after hsplit
      hunwritten ((writes_iff hunwritten).mpr hreports)

theorem SettledAtFirst.converges (hfirst : SettledAtFirst codec db polls key) :
    Converges codec db polls key := by
  constructor
  · intro earlier later hsplit hsome outcome newRating hall
    have hlast : (reportsOf key (storedPayloads codec polls)).getLast? =
        some (later.getLast hsome) := by
      rw [hsplit, List.getLast?_append_of_ne_nil _ hsome,
        List.getLast?_eq_some_getLast hsome]
    obtain ⟨houtcome, hrating⟩ := hall _ (List.getLast_mem hsome)
    cases hknown : (db.matchPlayers.find? key).or
        (reportsOf key (storedPayloads codec polls)).head? with
    | none =>
        have hnil := List.head?_eq_none_iff.mp (Option.or_eq_none_iff.mp hknown).2
        rw [hnil] at hlast
        cases hlast
    | some first =>
        have hsame := hfirst.values first _ hknown hlast
        refine ⟨first, (find?_afterPolls ..).trans hknown, ?_, ?_⟩
        · rw [hsame.1, houtcome]
        · rw [hsame.2, hrating]
  · intro m hstored hstate before payload after hsplit hunwritten hwritten
    obtain ⟨hnone, hbefore⟩ := find?_before_eq_none.mp hunwritten
    have hreports := (writes_iff hunwritten).mp hwritten
    have hpayload : (storedPayloads codec polls).find? (·.reportsPlayer key) =
        some payload := by
      apply List.find?_eq_some_iff_append.mpr
      exact ⟨hreports, before, after, hsplit,
        fun payload hmem => by simp [hbefore payload hmem]⟩
    have hmem : payload ∈ storedPayloads codec polls := by
      rw [hsplit]
      exact List.mem_append_right _ List.mem_cons_self
    obtain ⟨row, hrow, hid⟩ := matchRow_of_reportsPlayer hmem hreports
    rw [(tables_afterPolls codec polls db).1, Table.find?_overwriteAll] at hstored
    cases hlast : lastUnder Match.matchId key.1
        ((storedPayloads codec polls).flatMap (·.matchRows)) with
    | none =>
        have hmatch := List.mem_flatMap.mpr ⟨payload, hmem, hrow⟩
        exact absurd hid (lastUnder_eq_none_iff.mp hlast row hmatch)
    | some last =>
        rw [hlast] at hstored
        cases hstored
        exact hfirst.completed hnone _ hlast hstate payload hpayload

end Converges

/-- Player rows converge exactly where the first that is known of a player is
settled already. -/
theorem converges_iff_settledAtFirst (codec : Codec) (db : Database)
    (polls : List RecentPoll) (key : Int × Int) :
    Converges codec db polls key ↔ SettledAtFirst codec db polls key :=
  ⟨Converges.settledAtFirst, SettledAtFirst.converges⟩

namespace PlayerRowWitness

/-- A match with one player, as its entry and the player's result and member
rows have it. -/
def payload (entry result member : List (String × Json)) : Json :=
  .obj [("matchHistoryStats", .arr [.obj ([("id", .int 1),
    ("mapname", .str "x.rms"), ("matchtype_id", .int 6),
    ("startgametime", .int 1),
    ("matchhistoryreportresults",
      .arr [.obj (("profile_id", .int 7) :: result)]),
    ("matchhistorymember",
      .arr [.obj (("profile_id", .int 7) :: member)])] ++ entry)])]

/-- While it is played, nothing is settled. -/
def inProgress : Json := payload [] [] [("oldrating", .int 1000)]

def finished : Json :=
  payload [("completiontime", .int 2)] [("resulttype", .int 1)]
    [("oldrating", .int 1000), ("newrating", .int 1016)]

def poll (now : Instant) (payload : Json) : RecentPoll :=
  ⟨[(6, 3)], now, [(7, .payload payload)]⟩

def polls : List RecentPoll := [poll 1 inProgress, poll 2 finished]

end PlayerRowWitness

open PlayerRowWitness in
/-- A player first seen while the match was played keeps his empty result. -/
theorem result_never_filled_in :
    ¬ ∀ (codec : Codec) (db : Database) (polls : List RecentPoll)
      (key : Int × Int), Converges codec db polls key := by
  intro hconverges
  let reported := reportsOf (1, 7) (storedPayloads BatchWitness.codec polls)
  obtain ⟨stored, hfind, houtcome, _⟩ :=
    (hconverges BatchWitness.codec .empty polls (1, 7)).settled
      (reported.take 1) (reported.drop 1) (List.take_append_drop 1 _).symm
      (by decide) (some .win) (some 1016) (by decide)
  have hempty : ((afterPolls BatchWitness.codec .empty polls).matchPlayers.find?
      (1, 7)).bind (·.outcome) = none := by decide
  rw [hfind, Option.bind_some, houtcome] at hempty
  cases hempty

end LiveStandings
