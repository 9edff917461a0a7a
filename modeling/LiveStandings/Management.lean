/-
The management API below the idempotency middleware: the body-size limit,
the access-token check, the owner gate, and the routes that create and
delete a tournament.  What third-party packages decide is in `Platform`.
-/
import LiveStandings.Idempotency

namespace LiveStandings

open KeyedTable PyJson

/-- A parsed API datetime, with a UTC offset or without one. -/
inductive Datetime where
  | aware (instant : Instant)
  | naive (instant : Instant)
deriving Repr, DecidableEq

/-- `left > right`; Python refuses to order aware against naive. -/
def Datetime.after : Datetime → Datetime → Except PyError Bool
  | aware left, aware right => .ok (right < left)
  | naive left, naive right => .ok (right < left)
  | _, _ => .error .typeError

/-- What a `timestamptz` column stores; the server's local time is UTC. -/
def Datetime.stored : Datetime → Instant
  | aware instant => instant
  | naive instant => instant

/-- `TournamentCreate`, validated. -/
structure TournamentCreate where
  slug : String
  name : String
  leaderboardId : Int
  rankBy : RankBy
  startDate : Option Datetime
  endDate : Option Datetime
  prizePoolCents : Option Int
  hostStreamUrls : List String
  presentation : List (String × Json)

/-- Why a request body yields no payload. -/
inductive BodyError where
  | notJson (errors : Json)
  | invalid (errors : Json)

/-- Why `jwt.decode` raises. -/
inductive JwtError where
  | invalidSignature
  | invalidToken
deriving Repr, DecidableEq

/-- The state the process and its database hold between requests. -/
structure Backend where
  db : Database
  now : Instant
  /-- The `tournaments.id` sequence. -/
  lastTournamentId : Int
  /-- What the limiter counted in the current minute: route and client. -/
  hits : List (String × String)

/-- The third-party packages the routes rely on. -/
structure Platform where
  /-- `jwt.decode` under the cached or the refreshed key: the `sub` claim. -/
  jwtDecode : (refreshed : Bool) → String → Backend →
    Except JwtError (Option String)
  /-- FastAPI and pydantic reading a `TournamentCreate` body. -/
  parseCreate : Bytes → Except BodyError TournamentCreate
  isoformat : Instant → String
  sha256 : Bytes → Bytes
  /-- The write routes below the middleware but for the creation and the
  deletion of a tournament: what is said of the middleware holds for any. -/
  otherRoutes : Request → Backend → Except Unhandled Response × Backend

/-- What a dependency or a handler raises. -/
inductive Raised where
  | http (statusCode : Nat) (detail : Json) (final : 200 ≤ statusCode)
  | unhandled
deriving Inhabited

theorem final_201 : 200 ≤ 201 := by decide
theorem final_204 : 200 ≤ 204 := by decide
theorem final_401 : 200 ≤ 401 := by decide
theorem final_403 : 200 ≤ 403 := by decide
theorem final_404 : 200 ≤ 404 := by decide
theorem final_409 : 200 ≤ 409 := by decide
theorem final_413 : 200 ≤ 413 := by decide
theorem final_429 : 200 ≤ 429 := by decide

/-- `HTTPException(status_code, detail)`. -/
def httpException (statusCode : Nat) (detail : String)
    (final : 200 ≤ statusCode) : Raised :=
  .http statusCode (.str detail) final

def jsonResponse (status : Nat) (body : Json) (final : 200 ≤ status) :
    Response where
  status := status
  body := body
  mediaType := some "application/json"
  headers := []
  final := final

/-- `_http_exception_handler` with the v2 envelope off, its default. -/
def httpExceptionHandler : Raised → Except Unhandled Response
  | .http statusCode detail final =>
      .ok (jsonResponse statusCode (.obj [("detail", detail)]) final)
  | .unhandled => .error .raised

/-- `MAX_REQUEST_BODY_SIZE`. -/
def maxRequestBodySize : Nat := 1048576

/-- `_MAX_OWNED_TOURNAMENTS_PER_CREATOR`. -/
def maxOwnedTournamentsPerCreator : Nat := 10

/-- `SUPPORTED_TOURNAMENT_LEADERBOARD_IDS`. -/
def supportedTournamentLeaderboardIds : List Int := [1, 2, 3, 4, 13, 14]

/-- `get_current_user_id`.  A bad signature is retried once under a freshly
fetched key. -/
def getCurrentUserId (platform : Platform) (request : Request)
    (backend : Backend) : Except Raised String :=
  match request.accessToken.filter (· ≠ "") with
  | none => .error (httpException 401 "Not authenticated" final_401)
  | some token =>
      let decoded :=
        match platform.jwtDecode false token backend with
        | .error .invalidSignature => platform.jwtDecode true token backend
        | first => first
      match decoded with
      | .error _ => .error (httpException 401 "Invalid token" final_401)
      | .ok sub =>
          match sub.filter (· ≠ "") with
          | none => .error
              (httpException 401 "Invalid token: missing subject" final_401)
          | some userId => .ok userId

/-- `require_tournament_owner`. -/
def requireTournamentOwner (platform : Platform) (slug : String)
    (request : Request) (backend : Backend) : Except Raised Tournament := do
  let userId ← getCurrentUserId platform request backend
  match backend.db.tournaments.rows.find? (·.slug = slug) with
  | none => .error (httpException 404 "Tournament not found" final_404)
  | some tournament =>
      if (backend.db.tournamentOwners.find? (tournament.id, userId)).isSome then
        .ok tournament
      else .error (httpException 403 "Not a tournament owner" final_403)

/-- `_require_supported_leaderboard`. -/
def requireSupportedLeaderboard (db : Database) (leaderboardId : Int) :
    Except Raised Unit :=
  match db.leaderboards.find? leaderboardId with
  | none => .error (httpException 422
      ("Unknown leaderboard " ++ toString leaderboardId ++ " — not present " ++
        "in this deployment's leaderboard metadata (on a fresh deployment " ++
        "the worker may not have loaded leaderboards yet; retry shortly)")
      final_422)
  | some row =>
      if !row.isRanked ||
          !supportedTournamentLeaderboardIds.contains leaderboardId then
        .error (httpException 422
          ("Leaderboard " ++ toString leaderboardId ++ " (" ++ row.name ++
            ") is not a supported tournament ladder; supported: the ranked " ++
            "solo and team RM/EW/DM boards") final_422)
      else .ok ()

/-- The window check of `create_tournament`. -/
def requireOrderedWindow (startDate endDate : Option Datetime) :
    Except Raised Unit :=
  match startDate, endDate with
  | some start, some stop =>
      match start.after stop with
      | .error _ => .error .unhandled
      | .ok true =>
          .error (httpException 422 "start_date must not be after end_date"
            final_422)
      | .ok false => .ok ()
  | _, _ => .ok ()

/-- Whether the operator put the user on the creator allowlist. -/
def approvedCreator (db : Database) (userId : String) : Bool :=
  (db.tournamentCreators.find? userId).isSome

/-- The tournament row `create_tournament` adds. -/
def tournamentOf (payload : TournamentCreate) (id : Int) (now : Instant) :
    Tournament where
  id := id
  slug := payload.slug
  name := payload.name
  leaderboardId := payload.leaderboardId
  rankBy := payload.rankBy
  startDate := payload.startDate.map Datetime.stored
  endDate := payload.endDate.map Datetime.stored
  prizePoolCents := payload.prizePoolCents
  hostStreamUrls := payload.hostStreamUrls
  presentation := payload.presentation
  createdAt := now

/-- The value of a `RankBy`. -/
def RankBy.value : RankBy → String
  | peakRating => "peak_rating"
  | currentRating => "current_rating"

/-- `_serialize_tournament`: the `TournamentRead` document. -/
def serializeTournament (platform : Platform) (tournament : Tournament)
    (liveHostTournaments : List Int) : Json :=
  let date (value : Option Instant) : Json :=
    match value with
    | none => .null
    | some instant => .str (platform.isoformat instant)
  .obj [("id", .int tournament.id), ("slug", .str tournament.slug),
    ("name", .str tournament.name),
    ("leaderboard_id", .int tournament.leaderboardId),
    ("rank_by", .str tournament.rankBy.value),
    ("start_date", date tournament.startDate),
    ("end_date", date tournament.endDate),
    ("prize_pool_cents",
      match tournament.prizePoolCents with
      | none => .null
      | some cents => .int cents),
    ("host_stream_urls", .arr (tournament.hostStreamUrls.map .str)),
    ("presentation", .obj tournament.presentation),
    ("host_stream_live", .bool (liveHostTournaments.contains tournament.id)),
    ("created_at", date (some tournament.createdAt))]

/-- `create_tournament`, once its caller and payload are known. -/
def createTournament (platform : Platform) (userId : String)
    (payload : TournamentCreate) (backend : Backend) :
    Except Raised (Response × Backend) := do
  let db := backend.db
  if !approvedCreator db userId then
    .error (httpException 403
      ("Tournament creation requires operator approval — this account " ++
        "is not on the creator allowlist") final_403)
  else
    let ownedCount := db.tournamentOwners.rows.countP (·.userId = userId)
    if maxOwnedTournamentsPerCreator ≤ ownedCount then
      .error (httpException 422
        ("This account already holds owner rows for " ++
          toString ownedCount ++ " tournaments — the per-creator ceiling is " ++
          toString maxOwnedTournamentsPerCreator ++
          ". Contact the platform operator if you genuinely need more.")
        final_422)
    else
      requireOrderedWindow payload.startDate payload.endDate
      requireSupportedLeaderboard db payload.leaderboardId
      if db.tournaments.rows.any (·.slug = payload.slug) then
        .error (httpException 409
          ("Tournament '" ++ payload.slug ++ "' already exists") final_409)
      else
        let id := backend.lastTournamentId + 1
        let tournament := tournamentOf payload id backend.now
        let owner : TournamentOwner :=
          { tournamentId := id, userId, createdAt := backend.now }
        .ok (jsonResponse 201 (serializeTournament platform tournament [])
            final_201,
          { backend with
            lastTournamentId := id
            db := { db with
              tournaments := db.tournaments.insertNew tournament
              tournamentOwners := db.tournamentOwners.insertNew owner } })

/-- `ON DELETE CASCADE` from a tournament row. -/
def cascadeTournament (db : Database) (id : Int) : Database :=
  let teamIds := (db.teams.rows.filter (·.tournamentId = id)).map (·.id)
  let rowIds :=
    (db.tournamentPlayers.rows.filter (·.tournamentId = id)).map (·.id)
  { db with
    tournaments := db.tournaments.keepWhere (·.id ≠ id)
    tournamentPlayers := db.tournamentPlayers.keepWhere (·.tournamentId ≠ id)
    tournamentOwners := db.tournamentOwners.keepWhere (·.tournamentId ≠ id)
    teams := db.teams.keepWhere (·.tournamentId ≠ id)
    teamMembers := db.teamMembers.keepWhere fun row =>
      !teamIds.contains row.teamId && !rowIds.contains row.tournamentPlayerId
    liveStreams := db.liveStreams.keepWhere fun row =>
      !rowIds.contains row.tournamentPlayerId
    hostLiveStreams := db.hostLiveStreams.keepWhere (·.tournamentId ≠ id) }

/-- A 204 answer. -/
def noContent : Response where
  status := 204
  body := .null
  mediaType := none
  headers := []
  final := final_204

/-- `delete_tournament`, once the owner gate let it through. -/
def deleteTournament (tournament : Tournament) (backend : Backend) :
    Response × Backend :=
  (noContent, { backend with db := cascadeTournament backend.db tournament.id })

/-- A route's own `@limiter.limit`: a fixed window of `bound` requests per
client, counted before the handler runs. -/
def limited (scope : String) (bound : Nat) (request : Request)
    (backend : Backend) : Except Response Backend :=
  if backend.hits.count (scope, request.clientIp) < bound then
    .ok { backend with hits := (scope, request.clientIp) :: backend.hits }
  else
    .error (jsonResponse 429
      (.obj [("error", .str ("Rate limit exceeded: " ++ toString bound ++
        " per 1 minute"))]) final_429)

/-- `POST /v1/tournaments`: the body is decoded, then the token is checked,
then the payload, then the limit. -/
def postTournaments (platform : Platform) (request : Request)
    (backend : Backend) : Except Unhandled Response × Backend :=
  let invalid (errors : Json) : Except Unhandled Response × Backend :=
    (.ok (jsonResponse 422 (.obj [("detail", errors)]) final_422), backend)
  match platform.parseCreate request.body with
  | .error (.notJson errors) => invalid errors
  | parsed =>
      match getCurrentUserId platform request backend with
      | .error raised => (httpExceptionHandler raised, backend)
      | .ok userId =>
          match parsed with
          | .error (.notJson errors) => invalid errors
          | .error (.invalid errors) => invalid errors
          | .ok payload =>
              match limited "create_tournament" 5 request backend with
              | .error response => (.ok response, backend)
              | .ok counted =>
                  match createTournament platform userId payload counted with
                  | .error raised => (httpExceptionHandler raised, counted)
                  | .ok (response, committed) => (.ok response, committed)

/-- `DELETE /v1/tournaments/{tournament_slug}`. -/
def deleteTournaments (platform : Platform) (slug : String) (request : Request)
    (backend : Backend) : Except Unhandled Response × Backend :=
  match requireTournamentOwner platform slug request backend with
  | .error raised => (httpExceptionHandler raised, backend)
  | .ok tournament =>
      match limited "delete_tournament" 3 request backend with
      | .error response => (.ok response, backend)
      | .ok counted =>
          let (response, committed) := deleteTournament tournament counted
          (.ok response, committed)

/-- The slug of `/v1/tournaments/{tournament_slug}`. -/
def tournamentSlug? (path : String) : Option String :=
  let stem := "/v1/tournaments/".toList
  let rest := path.toList.drop stem.length
  if stem.isPrefixOf path.toList && !rest.isEmpty && !rest.contains '/' then
    some (String.ofList rest)
  else none

/-- The stack below the idempotency middleware.  Write routes carry their own
limits, so the default limit of the limiter middleware is not met here. -/
def managementApp (platform : Platform) : App Backend where
  callNext request backend :=
    if (request.contentLength.getD 0) > maxRequestBodySize then
      (.ok (jsonResponse 413
        (.obj [("detail", .str "Request body too large")]) final_413),
        backend)
    else if request.method = "POST" ∧ request.path = "/v1/tournaments" then
      postTournaments platform request backend
    else
      match request.method, tournamentSlug? request.path with
      | "DELETE", some slug => deleteTournaments platform slug request backend
      | _, _ => platform.otherRoutes request backend
  timestamp backend := platform.isoformat backend.now
  sha256 := platform.sha256

/-- Whether the caller is authenticated and allowed what the route asks: the
creator allowlist on creation, the owner gate on deletion. -/
def managementAdmits (platform : Platform) (request : Request)
    (backend : Backend) : Bool :=
  if request.method = "POST" ∧ request.path = "/v1/tournaments" then
    match getCurrentUserId platform request backend with
    | .ok userId => approvedCreator backend.db userId
    | .error _ => false
  else
    match request.method, tournamentSlug? request.path with
    | "DELETE", some slug =>
        (requireTournamentOwner platform slug request backend).toBool
    | _, _ => true

/-- Neither 401 nor 403. -/
def NotRefused (status : Nat) : Prop := status ≠ 401 ∧ status ≠ 403

instance (status : Nat) : Decidable (NotRefused status) :=
  inferInstanceAs (Decidable (_ ∧ _))

/-- The status `create_tournament` ends in. -/
def createStatus : Except Raised (Response × Backend) → Nat
  | .error raised => statusOf (httpExceptionHandler raised)
  | .ok (response, _) => response.status

/-- An approved creator is refused for the request, not for who they are. -/
theorem createTournament_notRefused (platform : Platform) {userId : String}
    (payload : TournamentCreate) {backend : Backend}
    (happroved : approvedCreator backend.db userId = true) :
    NotRefused (createStatus
      (createTournament platform userId payload backend)) := by
  rw [createTournament]
  simp only [happroved, Bool.not_true, Bool.false_eq_true, ↓reduceIte]
  split
  · change NotRefused 422
    decide
  · cases hwindow : requireOrderedWindow payload.startDate payload.endDate with
    | error raised =>
        unfold requireOrderedWindow at hwindow
        split at hwindow
        · split at hwindow
          · obtain rfl := Except.error.inj hwindow
            change NotRefused 500
            decide
          · obtain rfl := Except.error.inj hwindow
            change NotRefused 422
            decide
          · cases hwindow
        · cases hwindow
    | ok _ =>
        cases hboard : requireSupportedLeaderboard backend.db
          payload.leaderboardId with
        | error raised =>
            rw [requireSupportedLeaderboard] at hboard
            split at hboard
            · obtain rfl := Except.error.inj hboard
              change NotRefused 422
              decide
            · split at hboard
              · obtain rfl := Except.error.inj hboard
                change NotRefused 422
                decide
              · cases hboard
        | ok _ =>
            change NotRefused (createStatus (if _ then _ else _))
            split
            · change NotRefused 409
              decide
            · change NotRefused 201
              decide

theorem limited_notRefused {scope : String} {bound : Nat} {request : Request}
    {backend : Backend} {response : Response}
    (hlimited : limited scope bound request backend = .error response) :
    NotRefused response.status := by
  rw [limited] at hlimited
  split at hlimited
  · cases hlimited
  · obtain rfl := Except.error.inj hlimited
    change NotRefused 429
    decide

theorem limited_db {scope : String} {bound : Nat} {request : Request}
    {backend counted : Backend}
    (hlimited : limited scope bound request backend = .ok counted) :
    counted.db = backend.db := by
  rw [limited] at hlimited
  split at hlimited
  · obtain rfl := Except.ok.inj hlimited
    rfl
  · cases hlimited

theorem postTournaments_notRefused {platform : Platform} {request : Request}
    {backend : Backend}
    (hadmits : (match getCurrentUserId platform request backend with
      | .ok userId => approvedCreator backend.db userId
      | .error _ => false) = true) :
    NotRefused (statusOf (postTournaments platform request backend).1) := by
  rw [postTournaments]
  split
  · change NotRefused 422
    decide
  · split at hadmits
    · next userId huser =>
        simp only [huser]
        split
        · change NotRefused 422
          decide
        · change NotRefused 422
          decide
        · next payload hpayload =>
            split
            · next response hlimited => exact limited_notRefused hlimited
            · next counted hcounted =>
                have happroved : approvedCreator counted.db userId = true := by
                  rwa [limited_db hcounted]
                have hstatus := createTournament_notRefused platform payload
                  happroved
                split
                · next raised hraised => rwa [hraised] at hstatus
                · next response committed hok => rwa [hok] at hstatus
    · cases hadmits

theorem deleteTournaments_notRefused {platform : Platform} {slug : String}
    {request : Request} {backend : Backend}
    (hadmits :
      (requireTournamentOwner platform slug request backend).toBool = true) :
    NotRefused
      (statusOf (deleteTournaments platform slug request backend).1) := by
  rw [deleteTournaments]
  split
  · next raised hraised => simp [hraised, Except.toBool] at hadmits
  · split
    · next response hlimited => exact limited_notRefused hlimited
    · change NotRefused 204
      decide

/-- Who is let through by the gate is answered neither 401 nor 403. -/
theorem managementApp_admitted {platform : Platform}
    (hother : ∀ request backend,
      NotRefused (statusOf (platform.otherRoutes request backend).1))
    {request : Request} {backend : Backend}
    (hadmits : managementAdmits platform request backend = true) :
    NotRefused
      (statusOf ((managementApp platform).callNext request backend).1) := by
  simp only [managementApp]
  rw [managementAdmits] at hadmits
  split
  · change NotRefused 413
    decide
  · split
    · next hroute =>
        rw [if_pos hroute] at hadmits
        exact postTournaments_notRefused hadmits
    · next hroute =>
        rw [if_neg hroute] at hadmits
        split
        · next slug hmethod hslug =>
            rw [hmethod, hslug] at hadmits
            exact deleteTournaments_notRefused hadmits
        · exact hother request backend

namespace ManagementWitness

/-- `DEFAULT_TEST_USER_ID`. -/
def defaultTestUserId : String := "00000000-0000-0000-0000-0000000000aa"

def springCup : TournamentCreate where
  slug := "spring-cup"
  name := "Spring Cup"
  leaderboardId := 3
  rankBy := .peakRating
  startDate := none
  endDate := none
  prizePoolCents := none
  hostStreamUrls := []
  presentation := []

/-- A token minted at the epoch, good for 15 minutes; the decoded body, the
rendered date and the digest are those of `createRequest`. -/
def platform : Platform where
  jwtDecode _ token backend :=
    if token = "access-token" ∧ backend.now < 900000000 then
      .ok (some defaultTestUserId)
    else .error .invalidToken
  parseCreate _ := .ok springCup
  isoformat _ := "1970-01-01T00:00:00+00:00"
  sha256 _ := [240, 40, 113, 103, 156, 234, 176, 119, 4, 122, 211, 140, 137,
    201, 208, 77, 21, 31, 16, 59, 136, 45, 105, 234, 226, 14, 69, 102, 44, 71,
    38, 223]
  otherRoutes _ backend :=
    (httpExceptionHandler (httpException 404 "Not Found" final_404), backend)

/-- The supported ladder is loaded and the test user may create. -/
def backend : Backend where
  db := { Database.empty with
    leaderboards := Table.empty.insertNew
      { leaderboardId := 3, name := "SOLO_RM_RANKED", isRanked := true,
        matchtypes := [6], updatedAt := 0 }
    tournamentCreators := Table.empty.insertNew
      { userId := defaultTestUserId, createdAt := 0 } }
  now := 0
  lastTournamentId := 0
  hits := []

def key : String := "11111111-2222-4333-8444-555555555555"

/-- The keyed `POST /v1/tournaments`, with this access token. -/
def createRequest (accessToken : Option String) : Request where
  method := "POST"
  path := "/v1/tournaments"
  body := encode ("\x7b\"slug\":\"spring-cup\",\"name\":\"Spring Cup\"," ++
    "\"leaderboard_id\":3\x7d")
  idempotencyKey := some key
  accessToken := accessToken
  contentLength := some 60
  clientIp := "203.0.113.7"

end ManagementWitness

end LiveStandings
