/-
The leaderboard loader.  Each load merges what upstream reports over the
static floor, and the result over the map the poller reads; so a map after any
cycles is the floor with the loads laid over it, the last one first.
-/
import LiveStandings.Pollers
import LiveStandings.Library.Overlay

namespace LiveStandings

open KeyedTable PyJson Fallible Overlay

/-- The transaction of `load_leaderboards`. -/
def storeLeaderboards (now : Instant) (payload : Json) (db : Database) :
    Except PyError Database := do
  let rows ← parseAvailableLeaderboards payload
  let races ← parseRaces payload
  let db ← rows.foldlM (fun db row => do
    .ok (upsertLeaderboard db (← row.bind now))) db
  races.foldlM (fun db race => do
    .ok (upsertCivilization db (← race.bind now))) db

/-- `load_leaderboards`, from its response on: what is committed, and the
mapping it returns. -/
def loadLeaderboards (now : Instant) (payload : Json) (db : Database) :
    Database × Except PyError (Dict DictKey Json) :=
  match storeLeaderboards now payload db with
  | .error error => (db, .error error)
  | .ok db' => (db', do
      let upstreamMap ← matchtypeToLeaderboardMap payload
      .ok (defaultMatchtypeToLeaderboard.update upstreamMap))

/-- The database, and the map the loader shares with the recent-matches
poller. -/
structure Loader where
  db : Database
  matchtypeMap : Dict DictKey Json

/-- The map as `lifespan` seeds it. -/
def Loader.seeded (db : Database) : Loader :=
  ⟨db, defaultMatchtypeToLeaderboard⟩

/-- A cycle of `run_leaderboards_loader`: a load, or a request that failed. -/
def Loader.cycle (s : Loader) (request : Instant × Fetch) : Loader :=
  match request.2 with
  | .failed => s
  | .payload payload =>
      match loadLeaderboards request.1 payload s.db with
      | (db, .ok mapping) => ⟨db, s.matchtypeMap.update mapping⟩
      | (db, .error _) => ⟨db, s.matchtypeMap⟩

/-- Parsing and binding a payload, before anything is written. -/
def boundLeaderboards (now : Instant) (payload : Json) :
    Except PyError (List Leaderboard × List Civilization) := do
  let rows ← parseAvailableLeaderboards payload
  let races ← parseRaces payload
  let rows ← rows.mapM (·.bind now)
  let races ← races.mapM (·.bind now)
  .ok (rows, races)

/-- The map a cycle's payload reports, if it is loaded. -/
def upstreamMap? (request : Instant × Fetch) : Option (Dict DictKey Json) :=
  match request.2 with
  | .failed => none
  | .payload payload =>
      match boundLeaderboards request.1 payload,
          matchtypeToLeaderboardMap payload with
      | .ok _, .ok mapping => some mapping
      | _, _ => none

/-- The maps reported by the loads among these cycles. -/
def loadedMaps (requests : List (Instant × Fetch)) :
    List (DictKey → Option Json) :=
  (requests.filterMap upstreamMap?).map Dict.get?

section Cycle

theorem storeLeaderboards_eq (now : Instant) (payload : Json)
    (db : Database) :
    storeLeaderboards now payload db =
      (boundLeaderboards now payload).map fun bound =>
        bound.2.foldl upsertCivilization (bound.1.foldl upsertLeaderboard db) := by
  unfold storeLeaderboards boundLeaderboards
  cases parseAvailableLeaderboards payload with
  | error error => rfl
  | ok rows =>
      cases parseRaces payload with
      | error error => rfl
      | ok races =>
          have hrows := foldlM_total (fun row : LeaderboardDict => row.bind now)
            upsertLeaderboard rows db
          simp only [bind, Except.bind] at hrows ⊢
          rw [hrows]
          cases rows.mapM (·.bind now) with
          | error error => rfl
          | ok rows =>
              have hraces := foldlM_total
                (fun race : CivilizationDict => race.bind now)
                upsertCivilization races (rows.foldl upsertLeaderboard db)
              simp only [bind, Except.bind] at hraces
              simp only [Except.map]
              rw [hraces]
              cases races.mapM (·.bind now) with
              | error error => rfl
              | ok races => rfl

/-- What a cycle does to the shared map does not depend on the database. -/
theorem Loader.cycle_matchtypeMap (s : Loader) (request : Instant × Fetch) :
    (s.cycle request).matchtypeMap =
      match upstreamMap? request with
      | none => s.matchtypeMap
      | some mapping =>
          s.matchtypeMap.update (defaultMatchtypeToLeaderboard.update mapping) := by
  obtain ⟨now, fetched⟩ := request
  cases fetched with
  | failed => rfl
  | payload payload =>
      simp only [Loader.cycle, loadLeaderboards, upstreamMap?,
        storeLeaderboards_eq]
      cases boundLeaderboards now payload with
      | error error => rfl
      | ok bound =>
          cases matchtypeToLeaderboardMap payload with
          | error error => rfl
          | ok mapping => rfl

theorem Loader.get?_cycle (s : Loader) (request : Instant × Fetch) :
    (s.cycle request).matchtypeMap.get? =
      ((upstreamMap? request).toList.map Dict.get?).foldl
        (refresh defaultMatchtypeToLeaderboard.get?) s.matchtypeMap.get? := by
  rw [Loader.cycle_matchtypeMap]
  cases upstreamMap? request with
  | none => rfl
  | some mapping =>
      funext k
      simp [refresh, overlay]

theorem loadedMaps_cons (request : Instant × Fetch)
    (requests : List (Instant × Fetch)) :
    loadedMaps (request :: requests) =
      (upstreamMap? request).toList.map Dict.get? ++ loadedMaps requests := by
  rw [loadedMaps, List.filterMap_cons]
  cases upstreamMap? request with
  | none => rfl
  | some mapping => rfl

theorem get?_cycles (requests : List (Instant × Fetch)) (s : Loader) :
    (requests.foldl Loader.cycle s).matchtypeMap.get? =
      (loadedMaps requests).foldl
        (refresh defaultMatchtypeToLeaderboard.get?) s.matchtypeMap.get? := by
  induction requests generalizing s with
  | nil => rfl
  | cons request requests ih =>
      rw [List.foldl_cons, ih, Loader.get?_cycle, loadedMaps_cons,
        List.foldl_append]

end Cycle

/-- The map after any cycles of one process: under each key the value of the
last load that succeeded, else the floor's, else the latest one that any load
reported; and no key is lost. -/
theorem matchtype_map_settled (db : Database)
    (requests : List (Instant × Fetch)) :
    (∀ k, (requests.foldl Loader.cycle (.seeded db)).matchtypeMap.get? k =
      settled defaultMatchtypeToLeaderboard.get? (loadedMaps requests) k) ∧
      ∀ later k,
        ((requests.foldl Loader.cycle (.seeded db)).matchtypeMap.get?
          k).isSome →
        (((requests ++ later).foldl Loader.cycle (.seeded db)).matchtypeMap.get?
          k).isSome := by
  constructor
  · intro k
    rw [get?_cycles]
    exact foldl_refresh _ _ k
  · intro later k hpresent
    rw [List.foldl_append, get?_cycles later]
    exact foldl_refresh_isSome _ _ hpresent

namespace LoaderWitness

/-- One leaderboard under the floor's matchtype 6, with another id. -/
def moved : Json :=
  .obj [("leaderboards", .arr [.obj [("id", .int 30), ("name", .str "1v1"),
    ("leaderboardmap", .arr [.obj [("matchtype_id", .int 6)]])]])]

/-- The leaderboard without its matchtypes. -/
def bare : Json :=
  .obj [("leaderboards", .arr [.obj [("id", .int 30), ("name", .str "1v1")]])]

def requests : List (Instant × Fetch) :=
  [(1, .payload moved), (2, .payload bare)]

end LoaderWitness

open LoaderWitness in
/-- A load without matchtypes puts the floor's leaderboard back over the one
upstream last reported. -/
theorem floor_over_upstream :
    ¬ ∀ (db : Database) (requests : List (Instant × Fetch)) (k : DictKey),
      (requests.foldl Loader.cycle (.seeded db)).matchtypeMap.get? k =
        (latest (loadedMaps requests) k).or
          (defaultMatchtypeToLeaderboard.get? k) := by
  intro hupstream
  have hsix := congrArg (Option.bind · Json.asInt?)
    (hupstream .empty requests (.int 6))
  exact absurd hsix (by decide)

end LiveStandings
