/-
The idempotency middleware.  A keyed write is looked up, sent down the stack
on a miss, and its answer stored.  The three parts commit separately, so
`dispatch` is their composition and the concurrent system interleaves them.
-/
import LiveStandings.Library.KeyedTable
import LiveStandings.Library.PyText
import LiveStandings.Models

namespace LiveStandings

open KeyedTable PyJson

universe u

/-- `bytes`. -/
abbrev Bytes := List UInt8

/-- `str.encode()`. -/
def encode (text : String) : Bytes := text.toUTF8.toList

/-- A request as the stack reads it. -/
structure Request where
  method : String
  /-- The decoded path, which the routes are matched on. -/
  path : String
  body : Bytes
  /-- The `Idempotency-Key` header. -/
  idempotencyKey : Option String
  /-- The `criticalbit_access` cookie. -/
  accessToken : Option String
  contentLength : Option Nat
  clientIp : String

/-- A final response; the informational statuses below 200 are never one. -/
structure Response where
  status : Nat
  body : Json
  mediaType : Option String
  headers : List (String × String)
  final : 200 ≤ status

/-- An exception that leaves the stack, answered 500 by the server. -/
inductive Unhandled where
  | raised
  | integrityError
deriving Repr, DecidableEq

/-- `idempotency_keys`; `created_at` only drives the retention purge. -/
structure IdempotencyKey where
  key : String
  requestFingerprint : Bytes
  responseStatus : Nat
  responseBody : Json
  final : 200 ≤ responseStatus

abbrev IdempotencyCache := Table IdempotencyKey.key

/-- The application below the middleware: `callNext` is the rest of the
stack, over whatever state `W` it commits to. -/
structure App (W : Type u) where
  callNext : Request → W → Except Unhandled Response × W
  /-- `datetime.now(UTC).isoformat()` -/
  timestamp : W → String
  sha256 : Bytes → Bytes

/-- `_WRITE_METHODS`. -/
def writeMethods : List String := ["POST", "PATCH", "DELETE", "PUT"]

/-- `request.url.path`.  The decoded path is put behind the host and split as a
URL once more: tabs and line breaks are dropped, and the path ends where a `?`
or `#` begins. -/
def Request.urlPath (request : Request) : String :=
  let dropped := ['\t', '\n', '\r']
  let delimiters := ['?', '#']
  String.ofList ((request.path.toList.filter
    fun c => !dropped.contains c).takeWhile fun c => !delimiters.contains c)

/-- `^/v\d+/`. -/
def pathPattern (path : String) : Bool :=
  match path.toList with
  | '/' :: 'v' :: rest =>
      let decimal := fun c => (PyText.decimal? c).isSome
      !(rest.takeWhile decimal).isEmpty &&
        (rest.dropWhile decimal).head? == some '/'
  | _ => false

/-- `[0-9a-fA-F]`. -/
def isHexDigit (c : Char) : Bool :=
  c.isDigit || ('a' ≤ c && c ≤ 'f') || ('A' ≤ c && c ≤ 'F')

/-- `_UUID_PATTERN`: 36 characters, hex digits but for four hyphens. -/
def uuidPattern (key : String) : Bool :=
  key.toList.length == 36 &&
    key.toList.zipIdx.all fun (c, i) =>
      if i ∈ [8, 13, 18, 23] then c == '-' else isHexDigit c

/-- The bytes that are hashed: method, path and body, a blank between. -/
def fingerprintInput (method path : String) (body : Bytes) : Bytes :=
  encode method ++ encode " " ++ encode path ++ encode " " ++ body

variable {W : Type u}

/-- `_fingerprint`, of what `dispatch` calls it with. -/
def fingerprint (app : App W) (request : Request) : Bytes :=
  app.sha256 (fingerprintInput request.method request.urlPath request.body)

theorem final_422 : 200 ≤ 422 := by decide

/-- `_envelope_response`.  No request id is bound yet this far out. -/
def envelopeResponse (timestamp errorCode message : String) :
    Response where
  status := 422
  body := .obj [("error_code", .str errorCode), ("message", .str message),
    ("request_id", .str "unknown"), ("timestamp", .str timestamp),
    ("details", .null)]
  mediaType := some "application/json"
  headers := []
  final := final_422

/-- The response a cached row is replayed as. -/
def IdempotencyKey.replay (row : IdempotencyKey) : Response where
  status := row.responseStatus
  body := row.responseBody
  mediaType := some "application/json"
  headers := []
  final := row.final

/-- What the first half of `dispatch` decides about a request. -/
inductive Admission where
  | passThrough
  | answered (response : Response)
  | miss (key : String)

/-- The key under which a request is intercepted: a write on a versioned
route with a non-empty header. -/
def interceptedKey (request : Request) : Option String :=
  if writeMethods.contains request.method && pathPattern request.urlPath then
    request.idempotencyKey.filter (· ≠ "")
  else none

/-- `dispatch` up to `call_next`. -/
def lookup (app : App W) (request : Request) (cache : IdempotencyCache)
    (world : W) : Admission :=
  match interceptedKey request with
  | none => .passThrough
  | some key =>
      if !uuidPattern key then
        .answered (envelopeResponse (app.timestamp world) "idempotency_key_invalid"
          "Idempotency-Key must be a UUID")
      else
        match cache.find? key with
        | some existing =>
            if existing.requestFingerprint ≠ fingerprint app request then
              .answered (envelopeResponse (app.timestamp world)
                "idempotency_key_reused"
                ("Idempotency-Key was used previously with a different " ++
                  "request body or path"))
            else .answered existing.replay
        | none => .miss key

/-- Only 2xx to 4xx answers are stored. -/
def cacheable (response : Response) : Bool :=
  200 ≤ response.status && response.status < 500

/-- A dict comprehension over header pairs: a repeated name keeps its first
place and its last value. -/
def headerDict : List (String × String) → List (String × String)
  | pairs => pairs.foldl (fun dict pair =>
      if dict.any (·.1 == pair.1) then
        dict.map fun old => if old.1 == pair.1 then pair else old
      else dict ++ [pair]) []

/-- The response is rebuilt without its `content-length` header. -/
def rebuilt (response : Response) : Response :=
  { response with
    headers := headerDict (response.headers.filter fun header =>
      header.1.toLower ≠ "content-length") }

/-- The row a response is stored as. -/
def cachedRow (key : String) (hash : Bytes) (response : Response) :
    IdempotencyKey where
  key := key
  requestFingerprint := hash
  responseStatus := response.status
  responseBody := response.body
  final := response.final

/-- `dispatch` after `call_next`: a cacheable answer is inserted, and a row
that is already there makes the commit raise. -/
def settle (key : String) (hash : Bytes)
    (outcome : Except Unhandled Response) (cache : IdempotencyCache) :
    Except Unhandled Response × IdempotencyCache :=
  match outcome with
  | .error exc => (.error exc, cache)
  | .ok response =>
      if cacheable response then
        match cache.find? key with
        | some _ => (.error .integrityError, cache)
        | none =>
            (.ok (rebuilt response),
              cache.insertNew (cachedRow key hash response))
      else (.ok response, cache)

/-- `IdempotencyMiddleware.dispatch`. -/
def dispatch (app : App W) (request : Request) (cache : IdempotencyCache)
    (world : W) : Except Unhandled Response × IdempotencyCache × W :=
  match lookup app request cache world with
  | .passThrough =>
      let (outcome, world') := app.callNext request world
      (outcome, cache, world')
  | .answered response => (.ok response, cache, world)
  | .miss key =>
      let (outcome, world') := app.callNext request world
      let (result, cache') := settle key (fingerprint app request) outcome cache
      (result, cache', world')

/-- The status a client sees; an exception that escapes is a 500. -/
def statusOf : Except Unhandled Response → Nat
  | .ok response => response.status
  | .error _ => 500

/-- What a client can tell one answer from another by. -/
def answerOf : Except Unhandled Response → Nat × Option Json
  | .ok response => (response.status, some response.body)
  | .error _ => (500, none)

/-- A write the middleware takes part in, under this key. -/
def KeyedWrite (request : Request) (key : String) : Prop :=
  interceptedKey request = some key ∧ uuidPattern key = true

/-- The same write sent again, perhaps by somebody else. -/
structure SameWrite (request request' : Request) : Prop where
  idempotencyKey : request.idempotencyKey = request'.idempotencyKey
  method : request.method = request'.method
  path : request.path = request'.path
  body : request.body = request'.body

section Middleware

variable {app : App W} {request request' : Request} {key : String}
  {cache : IdempotencyCache} {world : W}

theorem SameWrite.urlPath_eq (hsame : SameWrite request request') :
    request.urlPath = request'.urlPath := by
  rw [Request.urlPath, Request.urlPath, hsame.path]

theorem SameWrite.interceptedKey_eq (hsame : SameWrite request request') :
    interceptedKey request = interceptedKey request' := by
  simp only [interceptedKey, hsame.method, hsame.urlPath_eq,
    hsame.idempotencyKey]

theorem SameWrite.keyedWrite (hsame : SameWrite request request')
    (hkeyed : KeyedWrite request key) : KeyedWrite request' key :=
  ⟨hsame.interceptedKey_eq ▸ hkeyed.1, hkeyed.2⟩

theorem SameWrite.fingerprint_eq (hsame : SameWrite request request') :
    fingerprint app request = fingerprint app request' := by
  simp only [fingerprint, hsame.method, hsame.urlPath_eq, hsame.body]

theorem lookup_fresh (app : App W) (world : W)
    (hkeyed : KeyedWrite request key) (hfresh : cache.find? key = none) :
    lookup app request cache world = .miss key := by
  simp [lookup, hkeyed.1, hkeyed.2, hfresh]

theorem lookup_hit (hkeyed : KeyedWrite request key) {row : IdempotencyKey}
    (hrow : cache.find? key = some row)
    (hhash : row.requestFingerprint = fingerprint app request) :
    lookup app request cache world = .answered row.replay := by
  simp [lookup, hkeyed.1, hkeyed.2, hrow, hhash]

theorem lookup_answered_cases {response : Response}
    (hlookup : lookup app request cache world = .answered response) :
    response.status = 422 ∨
      ∃ key row, KeyedWrite request key ∧ cache.find? key = some row ∧
        row.requestFingerprint = fingerprint app request ∧
          response = row.replay := by
  unfold lookup at hlookup
  split at hlookup
  · cases hlookup
  · next key hfound =>
      split at hlookup
      · obtain rfl := Admission.answered.inj hlookup
        exact Or.inl rfl
      · next huuid =>
          have hkeyed : KeyedWrite request key := ⟨hfound, by simpa using huuid⟩
          split at hlookup
          · next row hrow =>
              split at hlookup
              · obtain rfl := Admission.answered.inj hlookup
                exact Or.inl rfl
              · next hhash =>
                  obtain rfl := Admission.answered.inj hlookup
                  exact Or.inr ⟨key, row, hkeyed, hrow, not_not.mp hhash, rfl⟩
          · cases hlookup

theorem lookup_eq_miss_iff :
    lookup app request cache world = .miss key ↔
      KeyedWrite request key ∧ cache.find? key = none := by
  constructor
  · intro hlookup
    unfold lookup at hlookup
    split at hlookup
    · cases hlookup
    · next found hfound =>
        split at hlookup
        · cases hlookup
        · next huuid =>
            split at hlookup
            · split at hlookup <;> cases hlookup
            · next hfresh =>
                obtain rfl : found = key := by injection hlookup
                have huuid' : uuidPattern found = true := by simpa using huuid
                exact ⟨⟨hfound, huuid'⟩, hfresh⟩
  · rintro ⟨hkeyed, hfresh⟩
    exact lookup_fresh app world hkeyed hfresh

/-- A row of another fingerprint is answered 422. -/
theorem lookup_reused (hkeyed : KeyedWrite request key) {row : IdempotencyKey}
    (hrow : cache.find? key = some row)
    (hhash : row.requestFingerprint ≠ fingerprint app request) :
    lookup app request cache world =
      .answered (envelopeResponse (app.timestamp world)
        "idempotency_key_reused"
        ("Idempotency-Key was used previously with a different " ++
          "request body or path")) := by
  simp [lookup, hkeyed.1, hkeyed.2, hrow, hhash]

/-- The insert either leaves the cache alone behind a 500, or stores the
answer it passes on. -/
theorem settle_cases {hash : Bytes} {outcome result : Except Unhandled Response}
    {cache' : IdempotencyCache}
    (hsettle : settle key hash outcome cache = (result, cache')) :
    (500 ≤ statusOf result ∧ cache' = cache) ∨
      ∃ response, outcome = .ok response ∧ response.status < 500 ∧
        cache.find? key = none ∧ result = .ok (rebuilt response) ∧
          cache' = cache.insertNew (cachedRow key hash response) := by
  cases outcome with
  | error exc =>
      obtain ⟨rfl, rfl⟩ := Prod.mk.inj hsettle
      exact Or.inl ⟨Nat.le_refl 500, rfl⟩
  | ok response =>
      simp only [settle] at hsettle
      split at hsettle
      · next hcacheable =>
          have hstatus : response.status < 500 := by
            simp [cacheable] at hcacheable
            exact hcacheable.2
          split at hsettle
          · obtain ⟨rfl, rfl⟩ := Prod.mk.inj hsettle
            exact Or.inl ⟨Nat.le_refl 500, rfl⟩
          · next hfresh =>
              obtain ⟨rfl, rfl⟩ := Prod.mk.inj hsettle
              exact Or.inr ⟨response, rfl, hstatus, hfresh, rfl, rfl⟩
      · next hcacheable =>
          obtain ⟨rfl, rfl⟩ := Prod.mk.inj hsettle
          have hfinal := response.final
          simp only [cacheable, Bool.and_eq_true, decide_eq_true_eq,
            not_and] at hcacheable
          exact Or.inl ⟨Nat.not_lt.mp (hcacheable hfinal), rfl⟩

theorem settle_keeps {hash : Bytes} {outcome result : Except Unhandled Response}
    {cache' : IdempotencyCache} {k : String} {row : IdempotencyKey}
    (hsettle : settle key hash outcome cache = (result, cache'))
    (hrow : cache.find? k = some row) : cache'.find? k = some row := by
  rcases settle_cases hsettle with ⟨_, rfl⟩ | ⟨response, _, _, hfresh, _, rfl⟩
  · exact hrow
  · rw [Table.find?_insertNew]
    have hne : (cachedRow key hash response).key ≠ k := by
      rintro rfl
      exact absurd (hfresh.symm.trans hrow) (by simp)
    rw [if_neg hne]
    exact hrow

theorem settle_fresh {hash : Bytes} (outcome : Except Unhandled Response)
    (hfresh : cache.find? key = none) :
    answerOf (settle key hash outcome cache).1 = answerOf outcome := by
  cases outcome with
  | error exc => rfl
  | ok response =>
      simp only [settle]
      split
      · simp [hfresh, rebuilt, answerOf]
      · rfl

theorem dispatch_of_miss
    (hmiss : lookup app request cache world = .miss key) :
    dispatch app request cache world =
      ((settle key (fingerprint app request) (app.callNext request world).1
          cache).1,
        (settle key (fingerprint app request) (app.callNext request world).1
          cache).2, (app.callNext request world).2) := by
  simp only [dispatch, hmiss]

theorem dispatch_of_answered {response : Response}
    (hanswered : lookup app request cache world = .answered response) :
    dispatch app request cache world = (.ok response, cache, world) := by
  simp only [dispatch, hanswered]

theorem dispatch_of_passThrough
    (hpass : lookup app request cache world = .passThrough) :
    dispatch app request cache world =
      ((app.callNext request world).1, cache,
        (app.callNext request world).2) := by
  simp only [dispatch, hpass]

theorem dispatch_keeps {k : String} {row : IdempotencyKey}
    (hrow : cache.find? k = some row) :
    (dispatch app request cache world).2.1.find? k = some row := by
  cases hlookup : lookup app request cache world with
  | passThrough => simpa [dispatch_of_passThrough hlookup] using hrow
  | answered response => simpa [dispatch_of_answered hlookup] using hrow
  | miss key =>
      rw [dispatch_of_miss hlookup]
      exact settle_keeps rfl hrow

theorem dispatch_frame {k : String} (hkey : interceptedKey request ≠ some k) :
    (dispatch app request cache world).2.1.find? k = cache.find? k := by
  cases hlookup : lookup app request cache world with
  | passThrough => rw [dispatch_of_passThrough hlookup]
  | answered response => rw [dispatch_of_answered hlookup]
  | miss key =>
      have hkeyed := (lookup_eq_miss_iff.mp hlookup).1
      have hne : key ≠ k := by
        rintro rfl
        exact hkey hkeyed.1
      rw [dispatch_of_miss hlookup]
      rcases hsettle : settle key (fingerprint app request)
        (app.callNext request world).1 cache with ⟨result, cache'⟩
      rcases settle_cases hsettle with ⟨_, rfl⟩ | ⟨response, _, _, _, _, rfl⟩
      · rfl
      · simp [Table.find?_insertNew, cachedRow, hne]

end Middleware

end LiveStandings
