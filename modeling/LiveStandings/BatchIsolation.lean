/-
One cycle of the recent-matches poller over a batch of fetch results.  Failed
fetches are skipped, but parsing and every upsert share one transaction: a
payload that cannot be stored takes the whole batch with it.
-/
import LiveStandings.Pollers

namespace LiveStandings

open KeyedTable PyJson Fallible

section Isolation

variable (codec : Codec) (mapping : Dict Int Int) (now : Instant)

/-- A payload that parses and whose every row fits its columns. -/
def wellFormed (payload : Json) : Bool :=
  (boundRecent codec mapping now payload).isOk

/-- A fetch that failed or brought a well-formed payload. -/
def harmless : Fetch → Bool
  | .failed => true
  | .payload payload => wellFormed codec mapping now payload

/-- A fetch that brought a well-formed payload. -/
def landed : Fetch → Bool
  | .failed => false
  | .payload payload => wellFormed codec mapping now payload

/-- The rows of a fetch; what is not well formed has none. -/
def fetchedRows : Fetch → RecentRows
  | .failed => ⟨[], [], []⟩
  | .payload payload =>
      match boundRecent codec mapping now payload with
      | .ok rows => rows
      | .error _ => ⟨[], [], []⟩

/-- The rows of the well-formed payloads of a batch, in batch order. -/
def batchRows (batch : List (Int × Fetch)) : RecentRows where
  matchRows := batch.flatMap fun result =>
    (fetchedRows codec mapping now result.2).matchRows
  players := batch.flatMap fun result =>
    (fetchedRows codec mapping now result.2).players
  aliases := batch.flatMap fun result =>
    (fetchedRows codec mapping now result.2).aliases

/-- The batch without its failed and malformed results. -/
def landedOnly (batch : List (Int × Fetch)) : List (Int × Fetch) :=
  batch.filter fun result => landed codec mapping now result.2

end Isolation

/-- The tables a recent-matches tick stores what it fetched in. -/
def recentTables (db : Database) :
    Table Match.matchId × Table MatchPlayer.key × Table ProfileAlias.profileId :=
  (db.matchTable, db.matchPlayers, db.profileAliases)

/-- Nothing in `rows` is new: each match and each alias row they leave is
stored as it stands, and each match player is stored already. -/
structure AlreadyStored (db : Database) (rows : RecentRows) : Prop where
  matchRows : ∀ matchId row,
    lastUnder Match.matchId matchId rows.matchRows = some row →
      db.matchTable.find? matchId = some row
  players : ∀ row ∈ rows.players, row.key ∈ db.matchPlayers.rows.map (·.key)
  aliases : ∀ profileId row,
    lastUnder ProfileAlias.profileId profileId rows.aliases = some row →
      db.profileAliases.find? profileId = some row

theorem writeRecent_unchanged_iff (db : Database) (rows : RecentRows) :
    recentTables (writeRecent db rows) = recentTables db ↔
      AlreadyStored db rows := by
  have htables : recentTables (writeRecent db rows) = recentTables db ↔
      db.matchTable.overwriteAll rows.matchRows = db.matchTable ∧
        db.matchPlayers.insertAll rows.players = db.matchPlayers ∧
        db.profileAliases.overwriteAll rows.aliases = db.profileAliases := by
    simp [recentTables, writeRecent]
  rw [htables, Table.overwriteAll_eq_self_iff, Table.insertAll_eq_self_iff,
    Table.overwriteAll_eq_self_iff]
  constructor
  · rintro ⟨hmatches, hplayers, haliases⟩
    exact ⟨hmatches, hplayers, haliases⟩
  · intro hstored
    exact ⟨hstored.matchRows, hstored.players, hstored.aliases⟩

section Isolation

variable {codec : Codec} {mapping : Dict Int Int} {now : Instant}

theorem writeRecent_batchRows_cons (db : Database) (result : Int × Fetch)
    (batch : List (Int × Fetch)) :
    writeRecent db (batchRows codec mapping now (result :: batch)) =
      writeRecent (writeRecent db (fetchedRows codec mapping now result.2))
        (batchRows codec mapping now batch) := by
  simp only [writeRecent, batchRows, List.flatMap_cons,
    Table.overwriteAll_append, Table.insertAll_append]

theorem storeFetched_eq (codec : Codec) (mapping : Dict Int Int)
    (now : Instant) (db : Database) (result : Int × Fetch) :
    if harmless codec mapping now result.2 then
      storeFetched codec mapping now db result =
        .ok (writeRecent db (fetchedRows codec mapping now result.2))
    else ∃ error, storeFetched codec mapping now db result = .error error := by
  obtain ⟨profileId, fetch⟩ := result
  cases fetch with
  | failed => exact rfl
  | payload payload =>
      simp only [harmless, wellFormed, storeFetched, fetchedRows, storeRecent_eq]
      cases boundRecent codec mapping now payload with
      | error error => exact ⟨error, rfl⟩
      | ok rows => exact rfl

/-- The loop stores the whole batch, or raises at its first malformed
payload. -/
theorem foldlM_storeFetched (codec : Codec) (mapping : Dict Int Int)
    (now : Instant) (batch : List (Int × Fetch)) (db : Database) :
    if batch.all fun result => harmless codec mapping now result.2 then
      batch.foldlM (storeFetched codec mapping now) db =
        .ok (writeRecent db (batchRows codec mapping now batch))
    else ∃ error,
      batch.foldlM (storeFetched codec mapping now) db = .error error := by
  induction batch generalizing db with
  | nil => exact rfl
  | cons result batch ih =>
      have hfirst := storeFetched_eq codec mapping now db result
      rw [List.foldlM_cons, List.all_cons]
      by_cases hharmless : harmless codec mapping now result.2
      · rw [if_pos hharmless] at hfirst
        rw [hharmless, Bool.true_and, hfirst, writeRecent_batchRows_cons]
        exact ih _
      · rw [if_neg hharmless] at hfirst
        obtain ⟨error, herror⟩ := hfirst
        rw [Bool.eq_false_iff.mpr hharmless, Bool.false_and, herror]
        exact ⟨error, rfl⟩

theorem recentTables_tick (batch : List (Int × Fetch)) (db : Database) :
    recentTables (committedState db (tickRecentMatches codec mapping now batch db)) =
      if batch.all fun result => harmless codec mapping now result.2 then
        recentTables (writeRecent db (batchRows codec mapping now batch))
      else recentTables db := by
  cases hbatch : batch with
  | nil => rfl
  | cons result rest =>
      rw [← hbatch]
      have hnonempty : batch.isEmpty = false := by rw [hbatch]; rfl
      have hloop := foldlM_storeFetched codec mapping now batch db
      simp only [tickRecentMatches, hnonempty, Bool.false_eq_true, if_false]
      split at hloop
      · next hall =>
          rw [if_pos hall, hloop]
          exact congrArg (fun run => recentTables (committedState db run))
            (commitNudge_eq _ _ _ _)
      · next hall =>
          obtain ⟨error, herror⟩ := hloop
          rw [if_neg hall, herror]
          rfl

theorem landedOnly_harmless (batch : List (Int × Fetch)) :
    (landedOnly codec mapping now batch).all fun result =>
      harmless codec mapping now result.2 := by
  rw [List.all_eq_true]
  intro result hmem
  obtain ⟨_, hlanded⟩ := List.mem_filter.mp hmem
  obtain ⟨profileId, fetch⟩ := result
  cases fetch with
  | failed => rfl
  | payload payload => exact hlanded

theorem fetchedRows_of_not_landed {fetch : Fetch}
    (hfetch : ¬landed codec mapping now fetch) :
    fetchedRows codec mapping now fetch = ⟨[], [], []⟩ := by
  cases fetch with
  | failed => rfl
  | payload payload =>
      simp only [landed, wellFormed, fetchedRows] at hfetch ⊢
      cases hbound : boundRecent codec mapping now payload with
      | error error => rfl
      | ok rows => simp [hbound, Except.isOk, Except.toBool] at hfetch

theorem batchRows_landedOnly (batch : List (Int × Fetch)) :
    batchRows codec mapping now (landedOnly codec mapping now batch) =
      batchRows codec mapping now batch := by
  induction batch with
  | nil => rfl
  | cons result batch ih =>
      have hmatches := congrArg RecentRows.matchRows ih
      have hplayers := congrArg RecentRows.players ih
      have haliases := congrArg RecentRows.aliases ih
      by_cases hlanded : landed codec mapping now result.2
      · simp only [landedOnly, batchRows, List.filter_cons, hlanded,
          ↓reduceIte, List.flatMap_cons] at hmatches hplayers haliases ⊢
        rw [hmatches, hplayers, haliases]
      · simp only [landedOnly, batchRows, List.filter_cons, hlanded,
          List.flatMap_cons, fetchedRows_of_not_landed hlanded,
          List.nil_append] at hmatches hplayers haliases ⊢
        simpa using ⟨hmatches, hplayers, haliases⟩

/-- A tick commits exactly the rows of the well-formed payloads if and only if
no payload is malformed or the well-formed ones bring nothing new. -/
theorem batch_isolated_iff (codec : Codec) (mapping : Dict Int Int)
    (now : Instant) (batch : List (Int × Fetch)) (db : Database) :
    recentTables (committedState db (tickRecentMatches codec mapping now batch db)) =
        recentTables (committedState db (tickRecentMatches codec mapping now
          (landedOnly codec mapping now batch) db)) ↔
      (∀ result ∈ batch, ∀ payload, result.2 = .payload payload →
        wellFormed codec mapping now payload) ∨
      AlreadyStored db (batchRows codec mapping now batch) := by
  have hwhole : (batch.all fun result => harmless codec mapping now result.2) =
      true ↔ ∀ result ∈ batch, ∀ payload, result.2 = .payload payload →
        wellFormed codec mapping now payload := by
    rw [List.all_eq_true]
    constructor
    · intro hall result hmem payload heq
      have hresult := hall result hmem
      rwa [heq] at hresult
    · intro hall result hmem
      cases hfetch : result.2 with
      | failed => rfl
      | payload payload => exact hall result hmem payload hfetch
  rw [recentTables_tick, recentTables_tick,
    if_pos (landedOnly_harmless batch), batchRows_landedOnly, ← hwhole]
  split
  · next hall => simp [hall]
  · next hall =>
      rw [eq_comm, writeRecent_unchanged_iff]
      simp [hall]

end Isolation

namespace BatchWitness

/-- No `options` blob decodes. -/
def codec : Codec := ⟨fun _ => none, fun _ => none, fun _ => none, fun _ => ""⟩

/-- A finished match, reported without its players. -/
def okPayload : Json :=
  .obj [("matchHistoryStats", .arr [.obj [("id", .int 1),
    ("mapname", .str "x.rms"), ("matchtype_id", .int 6),
    ("startgametime", .int 1), ("completiontime", .int 2)]])]

/-- The same match without its `startgametime`. -/
def unstartedPayload : Json :=
  .obj [("matchHistoryStats", .arr [.obj [("id", .int 2),
    ("mapname", .str "x.rms"), ("matchtype_id", .int 6),
    ("completiontime", .int 2)]])]

def batch : List (Int × Fetch) :=
  [(1, .payload okPayload), (2, .payload unstartedPayload)]

end BatchWitness

open BatchWitness in
/-- A match without a start time, reported for one profile, keeps the match of
another profile out of the database. -/
theorem unstarted_match_blocks_batch :
    ¬ ∀ (codec : Codec) (mapping : Dict Int Int) (now : Instant)
      (batch : List (Int × Fetch)) (db : Database),
      recentTables (committedState db
          (tickRecentMatches codec mapping now batch db)) =
        recentTables (committedState db (tickRecentMatches codec mapping now
          (landedOnly codec mapping now batch) db)) := by
  intro hisolated
  have hsame := hisolated codec [(6, 3)] 1000000 batch .empty
  have hcount := congrArg (fun tables => tables.1.rows.length) hsame
  exact absurd hcount (by decide)

end LiveStandings
