/-
The leaderboard a match is tagged with, over restarts, loads and ticks of the
worker.  A tick takes the tag from the map of its process, so a match stays
tagged as long as its matchtype is in the floor or was loaded since the last
restart.
-/
import LiveStandings.LeaderboardLoader
import LiveStandings.NudgeScope
import LiveStandings.Library.Runs

namespace LiveStandings

open KeyedTable PyJson Fallible Overlay Runs

/-- The integer keys of the shared map. -/
def intKeys (map : Dict DictKey Json) : List Int :=
  map.filterMap fun
    | (.int n, _) => some n
    | _ => none

/-- The shared map as the recent-matches poller reads it. -/
def pollerMap (map : Dict DictKey Json) : Dict Int Int :=
  (intKeys map).filterMap fun n =>
    ((map.get? (.int n)).bind Json.asInt?).map fun leaderboardId =>
      (n, leaderboardId)

/-- What the worker does: start anew, load leaderboards, or tick. -/
inductive WorkerEvent where
  | restart
  | load (request : Instant × Fetch)
  | tick (tick : Tick)

/-- The worker after an event. -/
def Loader.step (codec : Codec) (s : Loader) : WorkerEvent → Loader
  | .restart => .seeded s.db
  | .load request => s.cycle request
  | .tick tick => ⟨tick.commit codec (pollerMap s.matchtypeMap) s.db,
      s.matchtypeMap⟩

/-- The worker after events, from its start over a database. -/
def workerAfter (codec : Codec) (db : Database) (events : List WorkerEvent) :
    Loader :=
  events.foldl (Loader.step codec) (.seeded db)

/-- The maps loaded since the worker last started. -/
def loadsAfter (loads : List (DictKey → Option Json)) :
    WorkerEvent → List (DictKey → Option Json)
  | .restart => []
  | .load request => loads ++ (upstreamMap? request).toList.map Dict.get?
  | .tick _ => loads

def processLoads (events : List WorkerEvent) : List (DictKey → Option Json) :=
  events.foldl loadsAfter []

/-- Whether a match is stored with a leaderboard. -/
def Tagged (db : Database) (matchId : Int) : Prop :=
  ((db.matchTable.find? matchId).bind (·.leaderboardId)).isSome

instance (db : Database) (matchId : Int) : Decidable (Tagged db matchId) :=
  inferInstanceAs (Decidable (_ = true))

/-- The `matchHistoryStats` entries of a payload. -/
def matchEntries (payload : Json) : List Json :=
  match payload.getD "matchHistoryStats" (.arr []) >>= Json.iterate with
  | .ok stats => stats
  | .error _ => []

/-- Whether an entry is about a match. -/
def reportsMatch (matchId : Int) (raw : Json) : Bool :=
  match raw.item "id" with
  | .ok id => id.asInt? = some matchId
  | .error _ => false

/-- The entries about a match that a batch brought. -/
def reports (matchId : Int) (batch : List (Int × Fetch)) : List Json :=
  batch.flatMap fun result =>
    match result.2 with
    | .failed => []
    | .payload payload => (matchEntries payload).filter (reportsMatch matchId)

/-- The matchtype an entry reports. -/
def reportedMatchtype (raw : Json) : Option Int :=
  match raw.get "matchtype_id" with
  | .ok matchtypeId => matchtypeId.asInt?
  | .error _ => none

/-- The entry's matchtype is in the floor, or a load since the last restart
mapped it. -/
def Mapped (events : List WorkerEvent) (raw : Json) : Prop :=
  ∃ n, reportedMatchtype raw = some n ∧
    ((defaultMatchtypeToLeaderboard.get? (.int n)).isSome ∨
      ∃ load ∈ processLoads events, (load (.int n)).isSome)

section Map

theorem matchtypeToLeaderboardMap_value {payload : Json}
    {mapping : Dict DictKey Json}
    (hmap : matchtypeToLeaderboardMap payload = .ok mapping) :
    ∃ value lbs, payload.getD "leaderboards" (.arr []) = .ok value ∧
      value.iterate = .ok lbs ∧
        ∀ entry ∈ mapping, ∃ lb ∈ lbs, lb.item "id" = .ok entry.2 := by
  simp only [matchtypeToLeaderboardMap, bind_eq_ok] at hmap
  obtain ⟨value, hvalue, lbs, hlbs, hloop⟩ := hmap
  refine ⟨value, lbs, hvalue, hlbs, ?_⟩
  apply foldlM_invariant (fun mapping : Dict DictKey Json =>
    ∀ entry ∈ mapping, ∃ lb ∈ lbs, lb.item "id" = .ok entry.2) hloop
  · intro entry hentry
    cases hentry
  · intro mapping lb mapping' hlb hmapping hstep
    simp only [bind_eq_ok] at hstep
    obtain ⟨leaderboardId, hid, ids, _, hinner⟩ := hstep
    apply foldlM_invariant (fun mapping : Dict DictKey Json =>
      ∀ entry ∈ mapping, ∃ lb ∈ lbs, lb.item "id" = .ok entry.2) hinner hmapping
    intro mapping matchtypeId mapping' _ hmapping hset
    obtain ⟨key, _, hset⟩ := bind_eq_ok.mp hset
    cases hset
    intro entry hentry
    rcases List.mem_cons.mp hentry with rfl | hold
    · exact ⟨lb, hlb, hid⟩
    · exact hmapping entry hold

/-- The ids of stored leaderboards are integers. -/
theorem boundLeaderboards_id {now : Instant} {payload value : Json}
    {lbs : List Json} {bound : List Leaderboard × List Civilization}
    (hbound : boundLeaderboards now payload = .ok bound)
    (hvalue : payload.getD "leaderboards" (.arr []) = .ok value)
    (hlbs : value.iterate = .ok lbs) {lb leaderboardId : Json} (hlb : lb ∈ lbs)
    (hid : lb.item "id" = .ok leaderboardId) :
    (leaderboardId.asInt?).isSome := by
  simp only [boundLeaderboards, bind_eq_ok] at hbound
  obtain ⟨rows, hrows, _, _, bound, hbind, _⟩ := hbound
  simp only [parseAvailableLeaderboards, bind_eq_ok] at hrows
  obtain ⟨value', hvalue', lbs', hlbs', hrows⟩ := hrows
  rw [hvalue] at hvalue'
  cases hvalue'
  rw [hlbs] at hlbs'
  cases hlbs'
  obtain ⟨row, hrow, hparse⟩ := mem_of_mapM hrows hlb
  obtain ⟨leaderboardId', hid', _, _, _, _, _, _, hparse⟩ := by
    simpa only [bind_eq_ok] using hparse
  rw [hid] at hid'
  cases hid'
  cases hparse
  obtain ⟨stored, _, hstored⟩ := mem_of_mapM hbind hrow
  simp only [LeaderboardDict.bind, bind_eq_ok] at hstored
  obtain ⟨n, hn, _⟩ := hstored
  rw [asInt?_of_bindInt hn]
  rfl

theorem upstreamMap?_value {request : Instant × Fetch}
    {mapping : Dict DictKey Json} (hmap : upstreamMap? request = some mapping)
    {k : DictKey} {value : Json} (hvalue : mapping.get? k = some value) :
    (value.asInt?).isSome := by
  obtain ⟨now, fetched⟩ := request
  cases fetched with
  | failed => cases hmap
  | payload payload =>
      simp only [upstreamMap?] at hmap
      split at hmap
      · next bound mapping' hbound hloaded =>
          cases hmap
          obtain ⟨found, lbs, hfound, hlbs, hentries⟩ :=
            matchtypeToLeaderboardMap_value hloaded
          obtain ⟨lb, hlb, hid⟩ := hentries _ (Dict.mem_of_get? hvalue)
          exact boundLeaderboards_id hbound hfound hlbs hlb hid
      · cases hmap

theorem get?_workerAfter (codec : Codec) (db : Database)
    (events : List WorkerEvent) :
    (workerAfter codec db events).matchtypeMap.get? =
      (processLoads events).foldl (refresh defaultMatchtypeToLeaderboard.get?)
        defaultMatchtypeToLeaderboard.get? := by
  induction events using List.reverseRecOn with
  | nil => rfl
  | append_singleton events event ih =>
      rw [workerAfter, List.foldl_concat, processLoads, List.foldl_concat]
      cases event with
      | restart => rfl
      | tick tick => exact ih
      | load request =>
          rw [loadsAfter, List.foldl_append, Loader.step, Loader.get?_cycle]
          exact congrArg (fun current => List.foldl
            (refresh defaultMatchtypeToLeaderboard.get?) current _) ih

theorem mem_processLoads {events : List WorkerEvent}
    {load : DictKey → Option Json} (hload : load ∈ processLoads events) :
    ∃ request mapping, upstreamMap? request = some mapping ∧
      load = mapping.get? := by
  induction events using List.reverseRecOn with
  | nil => cases hload
  | append_singleton events event ih =>
      rw [processLoads, List.foldl_concat] at hload
      cases event with
      | restart => cases hload
      | tick tick => exact ih hload
      | load request =>
          rcases List.mem_append.mp hload with hold | hnew
          · exact ih hold
          · obtain ⟨mapping, hmapping, rfl⟩ := List.mem_map.mp hnew
            exact ⟨request, mapping, Option.mem_toList.mp hmapping, rfl⟩

theorem workerAfter_maps (codec : Codec) (db : Database)
    {events : List WorkerEvent} {n : Int}
    (hmapped : (defaultMatchtypeToLeaderboard.get? (.int n)).isSome ∨
      ∃ load ∈ processLoads events, (load (.int n)).isSome) :
    (((workerAfter codec db events).matchtypeMap.get? (.int n)).bind
      Json.asInt?).isSome := by
  rw [get?_workerAfter]
  have hpresent := (foldl_refresh_isSome_iff defaultMatchtypeToLeaderboard.get?
    (processLoads events) (.int n)).mpr hmapped
  have hfloor : ∀ k, ∀ value ∈ defaultMatchtypeToLeaderboard.get? k,
      (value.asInt?).isSome := by
    intro k value hvalue
    have hmem := Dict.mem_of_get? hvalue
    have hall : ∀ entry ∈ defaultMatchtypeToLeaderboard,
        (entry.2.asInt?).isSome := by decide
    exact hall _ hmem
  have hloads : ∀ load ∈ processLoads events, ∀ k, ∀ value ∈ load k,
      (value.asInt?).isSome := by
    intro load hload k value hvalue
    obtain ⟨request, mapping, hmapping, rfl⟩ := mem_processLoads hload
    exact upstreamMap?_value hmapping hvalue
  obtain ⟨value, hvalue⟩ := Option.isSome_iff_exists.mp hpresent
  have hint := foldl_refresh_values (fun value => (value.asInt?).isSome) hfloor
    hfloor hloads (.int n) value hvalue
  rw [hvalue]
  exact hint

theorem get?_pollerMap (map : Dict DictKey Json) (n : Int) :
    (pollerMap map).get? n = (map.get? (.int n)).bind Json.asInt? := by
  have hkeys := Dict.get?_filterMap
    (fun n => (map.get? (.int n)).bind Json.asInt?) (intKeys map) n
  rw [pollerMap, hkeys]
  split
  · rfl
  · next hmissing =>
      cases hfound : map.get? (.int n) with
      | none => rfl
      | some value =>
          have hmem : n ∈ intKeys map :=
            List.mem_filterMap.mpr ⟨_, Dict.mem_of_get? hfound, rfl⟩
          exact absurd hmem hmissing

end Map

section Tick

variable {codec : Codec} {mapping : Dict Int Int} {db : Database}
variable {matchId : Int}

theorem parseMatch_leaderboardId {raw : Json} {data : MatchDict}
    (hparse : parseMatch codec mapping raw = .ok data) :
    ∃ matchtypeId, raw.get "matchtype_id" = .ok matchtypeId ∧
      leaderboardOf mapping matchtypeId = .ok data.leaderboardId := by
  simp only [parseMatch, bind_eq_ok] at hparse
  obtain ⟨_, _, _, _, _, _, _, _, _, _, _, _, matchtypeId, hget,
    leaderboardId, hof, _, _, _, _, _, _, hdata⟩ := hparse
  cases hdata
  exact ⟨matchtypeId, hget, hof⟩

theorem MatchDict.bind_leaderboardId {data : MatchDict} {now : Instant}
    {row : Match} (hbind : data.bind now = .ok row) :
    row.leaderboardId = data.leaderboardId := by
  simp only [MatchDict.bind, bind_eq_ok] at hbind
  obtain ⟨_, _, _, _, _, _, leaderboardId, hid, _, _, _, _, hrow⟩ := hbind
  cases hrow
  exact eq_of_bindId? hid

theorem boundRecent_match {now : Instant} {payload : Json} {rows : RecentRows}
    (hbound : boundRecent codec mapping now payload = .ok rows) {m : Match}
    (hm : m ∈ rows.matchRows) :
    ∃ raw ∈ (matchEntries payload).filter (reportsMatch m.matchId),
      ∃ matchtypeId, raw.get "matchtype_id" = .ok matchtypeId ∧
        leaderboardOf mapping matchtypeId = .ok m.leaderboardId := by
  simp only [boundRecent, bind_eq_ok] at hbound
  obtain ⟨parsed, hparse, matchRows, hmatches, _, _, _, _, hrows⟩ := hbound
  cases hrows
  obtain ⟨data, hdata, hbind⟩ := exists_of_mem_mapM hmatches hm
  simp only [parseRecentMatches, bind_eq_ok] at hparse
  obtain ⟨_, _, _, _, _, _, value, hvalue, stats, hstats, pairs, hpairs,
    hparsed⟩ := hparse
  cases hparsed
  obtain ⟨pair, hpair, rfl⟩ := List.mem_map.mp hdata
  obtain ⟨raw, hraw, hentry⟩ := exists_of_mem_mapM hpairs hpair
  simp only [bind_eq_ok] at hentry
  obtain ⟨data, hmatch, _, _, hentry⟩ := hentry
  cases hentry
  have hentries : matchEntries payload = stats := by
    rw [matchEntries, bind_eq_ok.mpr ⟨value, hvalue, hstats⟩]
  have hid := asInt?_of_bindInt (MatchDict.bind_matchId hbind)
  have habout : reportsMatch m.matchId raw := by
    simp [reportsMatch, parseMatch_matchId hmatch, hid]
  rw [hentries, MatchDict.bind_leaderboardId hbind]
  exact ⟨raw, List.mem_filter.mpr ⟨hraw, habout⟩,
    parseMatch_leaderboardId hmatch⟩

theorem leaderboardOf_asInt {matchtypeId : Json} {n : Int}
    (hint : matchtypeId.asInt? = some n) :
    leaderboardOf mapping matchtypeId = .ok (mapping.get? n) := by
  cases matchtypeId <;> cases hint <;> rfl

theorem tagged_row {now : Instant} {batch : List (Int × Fetch)} {m : Match}
    (hmapped : ∀ raw ∈ reports m.matchId batch,
      ∃ n, reportedMatchtype raw = some n ∧ (mapping.get? n).isSome)
    (hm : m ∈ (batchRows codec mapping now batch).matchRows) :
    m.leaderboardId.isSome := by
  obtain ⟨result, hresult, hrow⟩ := List.mem_flatMap.mp hm
  obtain ⟨profileId, fetch⟩ := result
  cases fetch with
  | failed => cases hrow
  | payload payload =>
      simp only [fetchedRows] at hrow
      split at hrow
      · next rows hbound =>
          obtain ⟨raw, hraw, matchtypeId, hget, hof⟩ :=
            boundRecent_match hbound hrow
          have hreport : raw ∈ reports m.matchId batch :=
            List.mem_flatMap.mpr ⟨_, hresult, hraw⟩
          obtain ⟨n, hn, hpresent⟩ := hmapped raw hreport
          rw [reportedMatchtype, hget] at hn
          rw [leaderboardOf_asInt hn] at hof
          rw [← Except.ok.inj hof]
          exact hpresent
      · cases hrow

/-- A tick whose entries about a match all have mapped matchtypes leaves the
match tagged. -/
theorem tagged_recentMatches {now : Instant} {batch : List (Int × Fetch)}
    (htagged : Tagged db matchId)
    (hmapped : ∀ raw ∈ reports matchId batch,
      ∃ n, reportedMatchtype raw = some n ∧ (mapping.get? n).isSome) :
    Tagged (committedState db
      (tickRecentMatches codec mapping now batch db)) matchId := by
  have htables : recentTables (committedState db
      (tickRecentMatches codec mapping now batch db)) = _ :=
    recentTables_tick batch db
  split at htables
  · have hmatches : (committedState db
        (tickRecentMatches codec mapping now batch db)).matchTable =
          (writeRecent db (batchRows codec mapping now batch)).matchTable :=
      congrArg Prod.fst htables
    rw [Tagged, hmatches, find?_matchTable_writeRecent]
    cases hlast : lastUnder Match.matchId matchId
        (batchRows codec mapping now batch).matchRows with
    | none => exact htagged
    | some m =>
        obtain ⟨hm, rfl⟩ := mem_of_lastUnder hlast
        exact tagged_row hmapped hm
  · have hmatches : (committedState db
        (tickRecentMatches codec mapping now batch db)).matchTable =
          db.matchTable := congrArg Prod.fst htables
    rw [Tagged, hmatches]
    exact htagged

theorem tagged_lobbies (codec : Codec) (mapping : Dict Int Int)
    {tick : Tick} (hother : ∀ now batch, tick ≠ .recentMatches now batch)
    (htagged : Tagged db matchId) :
    Tagged (tick.commit codec mapping db) matchId := by
  obtain ⟨_, rows, _, hmatches⟩ := Tick.commit_lobbies codec mapping db hother
  obtain ⟨table, hfold, hplayed⟩ := foldl_upsertMatchFromLive rows db
  rw [Tagged, hmatches, hfold]
  obtain ⟨leaderboardId, hstored⟩ := Option.isSome_iff_exists.mp htagged
  obtain ⟨m, hfind, htag⟩ := Option.bind_eq_some_iff.mp hstored
  have hsame := hplayed matchId (by rw [hfind]; rfl)
  rw [hfind] at hsame
  obtain ⟨m', hfind', hm'⟩ := Option.map_eq_some_iff.mp hsame
  have hkept : m'.leaderboardId = m.leaderboardId :=
    congrArg PlayedMatch.leaderboardId hm'
  show ((table.find? matchId).bind (·.leaderboardId)).isSome
  rw [hfind', Option.bind_some, hkept, htag]
  rfl

theorem Loader.matchTable_cycle (s : Loader) (request : Instant × Fetch) :
    (s.cycle request).db.matchTable = s.db.matchTable := by
  obtain ⟨now, fetched⟩ := request
  cases fetched with
  | failed => rfl
  | payload payload =>
      simp only [Loader.cycle, loadLeaderboards, storeLeaderboards_eq]
      cases boundLeaderboards now payload with
      | error error => rfl
      | ok bound =>
          have hstored : (bound.2.foldl upsertCivilization
              (bound.1.foldl upsertLeaderboard s.db)).matchTable =
                s.db.matchTable := by
            rw [foldl_keeps Database.matchTable upsertCivilization
                fun _ _ => rfl,
              foldl_keeps Database.matchTable upsertLeaderboard fun _ _ => rfl]
          cases matchtypeToLeaderboardMap payload with
          | error error => exact hstored
          | ok mapping => exact hstored

end Tick

section Run

variable {codec : Codec} {db : Database} {matchId : Int}

theorem workerAfter_snoc (codec : Codec) (db : Database)
    (events : List WorkerEvent) (event : WorkerEvent) :
    workerAfter codec db (events ++ [event]) =
      (workerAfter codec db events).step codec event :=
  List.foldl_concat ..

/-- One event keeps a tag, unless it is a tick whose entries about the match
have a matchtype this process does not map. -/
theorem tagged_step {events : List WorkerEvent} {event : WorkerEvent}
    (htagged : Tagged (workerAfter codec db events).db matchId)
    (hmapped : ∀ now batch, event = .tick (.recentMatches now batch) →
      ∀ raw ∈ reports matchId batch, Mapped events raw) :
    Tagged (workerAfter codec db (events ++ [event])).db matchId := by
  rw [workerAfter_snoc]
  cases event with
  | restart => exact htagged
  | load request =>
      rw [Tagged, Loader.step, Loader.matchTable_cycle]
      exact htagged
  | tick tick =>
      cases tick with
      | recentMatches now batch =>
          apply tagged_recentMatches htagged
          intro raw hraw
          obtain ⟨n, hn, hloaded⟩ := hmapped now batch rfl raw hraw
          refine ⟨n, hn, ?_⟩
          rw [get?_pollerMap]
          exact workerAfter_maps codec db hloaded
      | playerStats now profileIds response =>
          exact tagged_lobbies codec _ (fun _ _ => nofun) htagged
      | liveMatches now profileIds response =>
          exact tagged_lobbies codec _ (fun _ _ => nofun) htagged

end Run

/-- A tagged match stays tagged through any restarts, loads and ticks, if each
tick finds the matchtypes reported of the match in the floor or among those
loaded since the last restart. -/
theorem tag_kept (codec : Codec) (db : Database) (matchId : Int)
    (earlier later : List WorkerEvent)
    (htagged : Tagged (workerAfter codec db earlier).db matchId)
    (hmapped : ∀ before now batch,
      before ++ [.tick (.recentMatches now batch)] <+: later →
        ∀ raw ∈ reports matchId batch, Mapped (earlier ++ before) raw) :
    Tagged (workerAfter codec db (earlier ++ later)).db matchId := by
  induction later using List.reverseRecOn with
  | nil => simpa using htagged
  | append_singleton later event ih =>
      rw [← List.append_assoc]
      apply tagged_step
      · apply ih
        intro before now batch hbefore
        exact hmapped before now batch (hbefore.trans (List.prefix_append ..))
      · rintro now batch rfl
        exact hmapped later now batch List.prefix_rfl

namespace TagWitness

/-- No `options` blob decodes. -/
def codec : Codec := BatchWitness.codec

/-- A leaderboard outside the floor. -/
def leaderboards : Json :=
  .obj [("leaderboards", .arr [.obj [("id", .int 25), ("name", .str "POM"),
    ("leaderboardmap", .arr [.obj [("matchtype_id", .int 120)]])]])]

/-- A finished match, reported without its players. -/
def recent (matchtypeId : Int) : Json :=
  .obj [("matchHistoryStats", .arr [.obj [("id", .int 1),
    ("mapname", .str "x.rms"), ("matchtype_id", .int matchtypeId),
    ("startgametime", .int 1), ("completiontime", .int 2)]])]

def load : WorkerEvent := .load (1, .payload leaderboards)

def poll (matchtypeId : Int) : WorkerEvent :=
  .tick (.recentMatches 2 [(1, .payload (recent matchtypeId))])

end TagWitness

open TagWitness in
/-- Polled again after a restart and a load, the match is tagged. -/
theorem tag_kept_reloaded :
    Tagged (workerAfter codec .empty
      [load, poll 120, .restart, load, poll 120]).db 1 := by
  apply tag_kept codec .empty 1 [load, poll 120] [.restart, load, poll 120]
  · decide
  · rintro before now batch ⟨rest, hsplit⟩
    rcases before with _ | ⟨first, _ | ⟨second, _ | ⟨third, before⟩⟩⟩
    · cases hsplit
    · cases hsplit
    · cases hsplit
      intro raw hraw
      obtain rfl := List.mem_singleton.mp hraw
      exact ⟨120, by decide, by decide⟩
    · have hlength := congrArg List.length hsplit
      simp at hlength

open TagWitness in
/-- A poll right after a restart takes away the tag of a match whose matchtype
only upstream maps. -/
theorem restart_untags :
    ¬ ∀ (codec : Codec) (db : Database) (matchId : Int)
      (earlier later : List WorkerEvent),
      Tagged (workerAfter codec db earlier).db matchId →
        Tagged (workerAfter codec db (earlier ++ later)).db matchId := by
  intro hkept
  have hafter := hkept codec .empty 1 [load, poll 120] [.restart, poll 120]
    (by decide)
  exact absurd hafter (by decide)

end LiveStandings
