/-
Histories of requests by different callers.  The cache is consulted outside
authentication and its rows name no caller, so a row is a channel between
everybody who knows its key.
-/
import LiveStandings.Library.Runs
import LiveStandings.Management

namespace LiveStandings

open KeyedTable PyJson Runs

universe u v

variable {C : Type u} {W : Type v}

/-- One event of a history: a request by a caller, or anything that changes
the committed state without passing the middleware. -/
inductive Traffic (C : Type u) (W : Type v) where
  | write (caller : C) (request : Request)
  | between (change : W → W)

/-- The cache and the committed state, and for each stored key the caller
whose request stored it. -/
structure Served (C : Type u) (W : Type v) where
  cache : IdempotencyCache
  world : W
  storedBy : List (String × C)

/-- A deployment before its first request. -/
def Served.fresh (world : W) : Served C W := ⟨.empty, world, []⟩

/-- One event goes through the middleware. -/
def serve (app : App W) (s : Served C W) : Traffic C W → Served C W
  | .write caller request =>
      let after := dispatch app request s.cache s.world
      { cache := after.2.1
        world := after.2.2
        storedBy :=
          match lookup app request s.cache s.world with
          | .miss key =>
              if (after.2.1.find? key).isSome then (key, caller) :: s.storedBy
              else s.storedBy
          | _ => s.storedBy }
  | .between change => { s with world := change s.world }

/-- What a request commits besides its cache row. -/
def committed (app : App W) (s : Served C W) (request : Request) (world : W) :
    W :=
  match lookup app request s.cache s.world with
  | .answered _ => world
  | _ => (app.callNext request world).2

/-- A history told twice: as it went, and with the `absent` requests changing
the committed state as they did but never having met the cache. -/
structure Retold (C : Type u) (W : Type v) where
  served : Served C W
  cache : IdempotencyCache
  world : W

def retell (app : App W) (absent : C → Request → Prop)
    [∀ caller request, Decidable (absent caller request)] (s : Retold C W)
    (event : Traffic C W) : Retold C W where
  served := serve app s.served event
  cache :=
    match event with
    | .write caller request =>
        if absent caller request then s.cache
        else (dispatch app request s.cache s.world).2.1
    | .between _ => s.cache
  world :=
    match event with
    | .write caller request =>
        if absent caller request then
          committed app s.served request s.world
        else (dispatch app request s.cache s.world).2.2
    | .between change => change s.world

/-- The history from a fresh deployment, told twice. -/
def retold (app : App W) (absent : C → Request → Prop)
    [∀ caller request, Decidable (absent caller request)] (world : W)
    (history : List (Traffic C W)) : Retold C W :=
  history.foldl (retell app absent) ⟨.fresh world, .empty, world⟩

@[simp] theorem retold_snoc (app : App W) (absent : C → Request → Prop)
    [∀ caller request, Decidable (absent caller request)] (world : W)
    (history : List (Traffic C W)) (event : Traffic C W) :
    retold app absent world (history ++ [event]) =
      retell app absent (retold app absent world history) event := by
  simp [retold]

instance (request request' : Request) :
    Decidable (SameWrite request request') :=
  decidable_of_iff
    (request.idempotencyKey = request'.idempotencyKey ∧
      request.method = request'.method ∧ request.path = request'.path ∧
        request.body = request'.body)
    ⟨fun ⟨hkey, hmethod, hpath, hbody⟩ => ⟨hkey, hmethod, hpath, hbody⟩,
      fun hsame => ⟨hsame.idempotencyKey, hsame.method, hsame.path, hsame.body⟩⟩

/-- The requests of `other` that carry the key, method, path and body of
`request`. -/
def sentBy (other : C) (request : Request) (caller : C) (request' : Request) :
    Prop :=
  caller = other ∧ SameWrite request' request

instance [DecidableEq C] (other : C) (request : Request) (caller : C)
    (request' : Request) : Decidable (sentBy other request caller request') :=
  inferInstanceAs (Decidable (_ ∧ _))

/-- After this history, `request` is answered as if `other` had never sent the
same keyed write through the cache. -/
def SameAnswerWithout [DecidableEq C] (app : App W) (world : W)
    (history : List (Traffic C W)) (other : C) (request : Request) : Prop :=
  let told := retold app (sentBy other request) world history
  answerOf (dispatch app request told.served.cache told.served.world).1 =
    answerOf (dispatch app request told.cache told.world).1

/-- A request the stack would answer 401 or 403 gets no cached 2xx. -/
def NoCachedSuccess (app : App W) (s : Served C W) (request : Request) :
    Prop :=
  ∀ response, lookup app request s.cache s.world = .answered response →
    response.status < 300 →
      NotRefused (statusOf (app.callNext request s.world).1)

/-- The row a request is replayed from was stored by its own caller, and if
it is a success the caller is still let through by the gate. -/
def OwnRow (app : App W) (admits : Request → W → Bool) (s : Served C W)
    (caller : C) (request : Request) : Prop :=
  ∀ key row, KeyedWrite request key → s.cache.find? key = some row →
    row.requestFingerprint = fingerprint app request →
      s.storedBy.lookup key = some caller ∧
        (row.responseStatus < 300 → admits request s.world = true)

/-- `OwnRow` for the event about to be served. -/
def OwnRows (app : App W) (admits : Request → W → Bool) (s : Served C W) :
    Traffic C W → Prop
  | .write caller request => OwnRow app admits s caller request
  | .between _ => True

section Retelling

variable {app : App W} {s : Served C W}

theorem serve_keeps (app : App W) {key : String} {row : IdempotencyKey}
    (event : Traffic C W) (hrow : s.cache.find? key = some row) :
    (serve app s event).cache.find? key = some row ∧
      (serve app s event).storedBy.lookup key = s.storedBy.lookup key := by
  cases event with
  | between change => exact ⟨hrow, rfl⟩
  | write caller request =>
      refine ⟨dispatch_keeps hrow, ?_⟩
      cases hlookup : lookup app request s.cache s.world with
      | passThrough => simp [serve, hlookup]
      | answered response => simp [serve, hlookup]
      | miss key' =>
          have hfresh := (lookup_eq_miss_iff.mp hlookup).2
          have hne : (key == key') = false := by
            refine beq_false_of_ne ?_
            rintro rfl
            exact absurd (hfresh.symm.trans hrow) (by simp)
          simp only [serve, hlookup]
          split
          · simp [List.lookup_cons, hne]
          · rfl

/-- A request either leaves the cache as it was and commits what the stack
does, or it stores a row under its caller's name. -/
theorem serve_write_cases (app : App W) (s : Served C W) (caller : C)
    (request : Request) :
    ((dispatch app request s.cache s.world).2.1 = s.cache ∧
        (dispatch app request s.cache s.world).2.2 =
          committed app s request s.world) ∨
      ∃ key row, KeyedWrite request key ∧
        (serve app s (.write caller request)).cache.find? key = some row ∧
        row.requestFingerprint = fingerprint app request ∧
        (serve app s (.write caller request)).storedBy.lookup key =
          some caller := by
  cases hlookup : lookup app request s.cache s.world with
  | passThrough =>
      simp [dispatch_of_passThrough hlookup, committed, hlookup]
  | answered response =>
      simp [dispatch_of_answered hlookup, committed, hlookup]
  | miss key =>
      obtain ⟨hkeyed, hfresh⟩ := lookup_eq_miss_iff.mp hlookup
      rcases hsettle : settle key (fingerprint app request)
        (app.callNext request s.world).1 s.cache with ⟨result, cache'⟩
      have hdispatch := dispatch_of_miss hlookup
      rw [hsettle] at hdispatch
      rcases settle_cases hsettle with
        ⟨_, rfl⟩ | ⟨response, _, _, _, _, hcache⟩
      · left
        simp [hdispatch, committed, hlookup]
      · right
        have hstored : cache'.find? key =
            some (cachedRow key (fingerprint app request) response) := by
          rw [hcache, Table.find?_insertNew, hfresh]
          simp [cachedRow]
        refine ⟨key, cachedRow key (fingerprint app request) response, hkeyed,
          ?_, rfl, ?_⟩
        · simp [serve, hdispatch, hstored]
        · simp [serve, hlookup, hdispatch, hstored]

variable [DecidableEq C]

/-- What both tellings have in common: they agree, or a row of `other`'s
stands under the key. -/
structure Agreement (app : App W) (other : C) (request : Request)
    (told : Retold C W) (s : Served C W) : Prop where
  served : told.served = s
  agree : (told.cache = s.cache ∧ told.world = s.world) ∨
    ∃ key row, KeyedWrite request key ∧ s.cache.find? key = some row ∧
      row.requestFingerprint = fingerprint app request ∧
        s.storedBy.lookup key = some other

theorem Agreement.step {other : C} {request : Request} {told : Retold C W}
    (hinv : Agreement app other request told s) (event : Traffic C W) :
    Agreement app other request
      (retell app (sentBy other request) told event) (serve app s event) := by
  obtain ⟨rfl, hagree⟩ := hinv
  refine ⟨rfl, ?_⟩
  rcases hagree with ⟨hcache, hworld⟩ | ⟨key, row, hkeyed, hrow, hhash, hby⟩
  · cases event with
    | between change => exact Or.inl ⟨hcache, by simp [retell, serve, hworld]⟩
    | write caller request' =>
        by_cases habsent : sentBy other request caller request'
        · rcases serve_write_cases app told.served caller request' with
            ⟨hkept, hcommitted⟩ | ⟨key, row, hkeyed, hrow, hhash, hby⟩
          · left
            simp [retell, serve, habsent, hcache, hworld, hkept, hcommitted]
          · obtain ⟨rfl, hsame⟩ := habsent
            exact Or.inr ⟨key, row, hsame.keyedWrite hkeyed, hrow,
              hhash.trans hsame.fingerprint_eq, hby⟩
        · left
          simp [retell, serve, habsent, hcache, hworld]
  · obtain ⟨hrow', hby'⟩ := serve_keeps app event hrow
    exact Or.inr ⟨key, row, hkeyed, hrow', hhash, hby'.trans hby⟩

/-- Along every history the two tellings agree, or `other` owns a row under
the key. -/
theorem retold_agreement (app : App W) (other : C) (request : Request) (world : W)
    {guard : Served C W → Traffic C W → Prop} {history : List (Traffic C W)}
    (hrun : Run (Guarded guard fun s event s' => s' = serve app s event)
      (.fresh world) history s) :
    Agreement app other request
      (retold app (sentBy other request) world history) s := by
  refine hrun.labelled_invariant (fun history s => Agreement app other request
    (retold app (sentBy other request) world history) s)
    ⟨rfl, Or.inl ⟨rfl, rfl⟩⟩ ?_
  rintro labels s event s' hinv ⟨_, rfl⟩
  rw [retold_snoc]
  exact hinv.step event

end Retelling

/-- Where every replayed row is its own caller's, answers do not cross
callers: another caller's use of the same keyed write shows only in what it
committed, and nobody the gate turns away is replayed a success. -/
theorem answers_do_not_cross [DecidableEq C] {app : App W}
    {admits : Request → W → Bool}
    (hgate : ∀ request world, admits request world = true →
      NotRefused (statusOf (app.callNext request world).1))
    {world : W} {history : List (Traffic C W)} {s : Served C W}
    (hrun : Run (Guarded (OwnRows app admits)
      fun s event s' => s' = serve app s event) (.fresh world) history s)
    {caller other : C} (hother : other ≠ caller) {request : Request}
    (hown : OwnRows app admits s (.write caller request)) :
    SameAnswerWithout app world history other request ∧
      NoCachedSuccess app s request := by
  constructor
  · obtain ⟨hserved, hagree⟩ :=
      retold_agreement app other request world hrun
    unfold SameAnswerWithout
    rcases hagree with ⟨hcache, hworld⟩ | ⟨key, row, hkeyed, hrow, hhash, hby⟩
    · simp only [hserved, hcache, hworld]
    · have hcaller := (hown key row hkeyed hrow hhash).1
      exact absurd (Option.some.inj (hby.symm.trans hcaller)) hother
  · intro response hanswered hsuccess
    rcases lookup_answered_cases hanswered with
      hstatus | ⟨key, row, hkeyed, hrow, hhash, rfl⟩
    · omega
    · exact hgate request s.world ((hown key row hkeyed hrow hhash).2 hsuccess)

section CallerWitness

open ManagementWitness

/-- While the database is down the routes fail; later on they answer. -/
def outage : Platform :=
  { platform with
    otherRoutes := fun _ backend =>
      if backend.now = 0 then (httpExceptionHandler .unhandled, backend)
      else (.ok noContent, backend) }

/-- A keyed `POST` of a team. -/
def postTeam : Request :=
  { createRequest (some "access-token") with
    path := "/v1/tournaments/spring-cup/teams" }

/-- Somebody else sends the write during the outage, the test user sends it
afterwards. -/
def afterOutage : List (Traffic (Option String) Backend) :=
  [] ++ [.write none postTeam] ++
    [.between fun backend => { backend with now := 1 }] ++
    [.write (some defaultTestUserId) postTeam]

/-- The test user sends the write once more; that somebody else sent it during
the outage, when nothing was cached, makes no difference. -/
theorem answers_do_not_cross_own_retry :
    let app := managementApp outage
    let s := afterOutage.foldl (serve app) (.fresh backend)
    s.storedBy.length = 1 ∧
      SameAnswerWithout app backend afterOutage none postTeam ∧
      NoCachedSuccess app s postTeam := by
  intro app s
  have hgate : ∀ request world, managementAdmits outage request world = true →
      NotRefused (statusOf (app.callNext request world).1) := by
    intro request world hadmits
    refine managementApp_admitted (fun request backend => ?_) hadmits
    simp only [outage]
    split
    · change NotRefused 500
      decide
    · change NotRefused 204
      decide
  have hnone : ∀ caller : Option String, ∀ s : Served (Option String) Backend,
      s.cache = .empty →
        OwnRows app (managementAdmits outage) s (.write caller postTeam) := by
    intro caller s hempty k row _ hrow
    rw [hempty] at hrow
    cases hrow
  have hrun : Run (Guarded (OwnRows app (managementAdmits outage))
      fun s event s' => s' = serve app s event) (.fresh backend) afterOutage
      s :=
    ((Run.refl.snoc ⟨hnone _ _ rfl, rfl⟩).snoc ⟨trivial, rfl⟩).snoc
      ⟨hnone _ _ rfl, rfl⟩
  have hretry : OwnRows app (managementAdmits outage) s
      (.write (some defaultTestUserId) postTeam) := by
    intro k row hkeyed hrow _
    have hintercepted : interceptedKey postTeam = some key := by decide
    obtain rfl := Option.some.inj (hintercepted.symm.trans hkeyed.1)
    have hstored : s.storedBy.lookup key = some (some defaultTestUserId) := by
      decide
    have hadmits : managementAdmits outage postTeam s.world = true := by decide
    exact ⟨hstored, fun _ => hadmits⟩
  exact ⟨by decide, answers_do_not_cross hgate hrun (by decide) hretry⟩

/-- A row names no caller: the same write without a token is replayed the
201 that the test user got, where the stack answers 401. -/
theorem anonymous_replays_success :
    let app := managementApp platform
    let create := createRequest (some "access-token")
    let s := serve app (.fresh backend) (.write (some defaultTestUserId) create)
    ¬ SameAnswerWithout app backend [.write (some defaultTestUserId) create]
        (some defaultTestUserId) (createRequest none) ∧
      ¬ NoCachedSuccess app s (createRequest none) := by
  refine ⟨fun hsame => ?_, fun hno => ?_⟩
  · have habsent : sentBy (some defaultTestUserId) (createRequest none)
        (some defaultTestUserId) (createRequest (some "access-token")) :=
      ⟨rfl, rfl, rfl, rfl, rfl⟩
    simp only [SameAnswerWithout, retold, List.foldl_cons, List.foldl_nil,
      retell, if_pos habsent] at hsame
    have hstatus : 201 = 401 := congrArg Prod.fst hsame
    omega
  · exact (hno _ rfl (by decide)).1 rfl

end CallerWitness

/-- A retry that reaches the stack and is answered, and committed, as a fresh
request would be. -/
def AnsweredAfresh (app : App W) (key : String) (retry : Request)
    (cache : IdempotencyCache) (world : W) : Prop :=
  lookup app retry cache world = .miss key ∧
    answerOf (dispatch app retry cache world).1 =
      answerOf (app.callNext retry world).1 ∧
    (dispatch app retry cache world).2.2 = (app.callNext retry world).2

section Retries

variable {app : App W} {request retry : Request} {key : String}

theorem answeredAfresh_of_fresh (hkeyed : KeyedWrite retry key)
    {cache : IdempotencyCache} {world : W} (hfresh : cache.find? key = none) :
    AnsweredAfresh app key retry cache world := by
  have hmiss := lookup_fresh app world hkeyed hfresh
  refine ⟨hmiss, ?_, ?_⟩
  · rw [dispatch_of_miss hmiss]
    exact settle_fresh _ hfresh
  · rw [dispatch_of_miss hmiss]

/-- The first attempt under a key leaves it unused exactly when it was
answered 500 or above. -/
theorem first_attempt_unused_iff (hkeyed : KeyedWrite request key)
    {cache : IdempotencyCache} {world : W} (hfresh : cache.find? key = none) :
    (dispatch app request cache world).2.1.find? key = none ↔
      500 ≤ statusOf (dispatch app request cache world).1 := by
  have hmiss := lookup_fresh app world hkeyed hfresh
  rcases hsettle : settle key (fingerprint app request)
    (app.callNext request world).1 cache with ⟨result, cache'⟩
  rw [dispatch_of_miss hmiss, hsettle]
  rcases settle_cases hsettle with
    ⟨hstatus, rfl⟩ | ⟨response, _, hstatus, _, rfl, rfl⟩
  · exact ⟨fun _ => hstatus, fun _ => hfresh⟩
  · constructor
    · intro hnone
      simp [cachedRow] at hnone
    · intro hstatus'
      exact absurd hstatus (Nat.not_lt.mpr hstatus')

theorem serve_frame (s : Served C W) (event : Traffic C W)
    (hother : ∀ caller request, event = .write caller request →
      interceptedKey request ≠ some key) :
    (serve app s event).cache.find? key = s.cache.find? key := by
  cases event with
  | between change => rfl
  | write caller request => exact dispatch_frame (hother caller request rfl)

theorem serveAll_frame (later : List (Traffic C W)) (s : Served C W)
    (hother : ∀ caller request, Traffic.write caller request ∈ later →
      interceptedKey request ≠ some key) :
    (later.foldl (serve app) s).cache.find? key = s.cache.find? key := by
  induction later generalizing s with
  | nil => rfl
  | cons event later ih =>
      have htail : ∀ caller request, Traffic.write caller request ∈ later →
          interceptedKey request ≠ some key := by
        intro caller request hmem
        exact hother caller request (List.mem_cons_of_mem event hmem)
      rw [List.foldl_cons, ih _ htail]
      refine serve_frame s event ?_
      rintro caller request rfl
      exact hother caller request List.mem_cons_self

end Retries

/-- The first attempt at a keyed write is answered, traffic under other keys
and any change of state follow, and the write is sent again, perhaps with
another token: it is answered afresh exactly when the first answer was a
5xx. -/
theorem retry_answered_afresh_iff {app : App W} {request retry : Request}
    {key : String} (hkeyed : KeyedWrite request key)
    (hsame : SameWrite request retry) {s : Served C W}
    (hfresh : s.cache.find? key = none) (caller : C)
    (later : List (Traffic C W))
    (hother : ∀ caller request, Traffic.write caller request ∈ later →
      interceptedKey request ≠ some key) :
    let after := later.foldl (serve app) (serve app s (.write caller request))
    AnsweredAfresh app key retry after.cache after.world ↔
      500 ≤ statusOf (dispatch app request s.cache s.world).1 := by
  intro after
  have hframe : after.cache.find? key =
      (dispatch app request s.cache s.world).2.1.find? key :=
    serveAll_frame later _ hother
  rw [← first_attempt_unused_iff hkeyed hfresh, ← hframe]
  constructor
  · intro hafresh
    exact (lookup_eq_miss_iff.mp hafresh.1).2
  · intro hunused
    exact answeredAfresh_of_fresh (hsame.keyedWrite hkeyed) hunused

section RetryWitness

open ManagementWitness

/-- The token is refreshed after an expired one was refused. -/
theorem retry_answered_afresh_iff_expired :
    let app := managementApp platform
    let expired := createRequest (some "expired-token")
    let retry := createRequest (some "access-token")
    let after := serve app (.fresh backend : Served Unit Backend)
      (.write () expired)
    AnsweredAfresh app key retry after.cache after.world ↔
      500 ≤ statusOf (dispatch app expired .empty backend).1 := by
  intro app expired retry after
  have hkeyed : KeyedWrite expired key := ⟨by decide, by decide⟩
  have hsame : SameWrite expired retry := ⟨rfl, rfl, rfl, rfl⟩
  have hfresh : (Served.fresh backend : Served Unit Backend).cache.find? key =
      none := rfl
  exact retry_answered_afresh_iff hkeyed hsame hfresh () [] (by simp)

/-- A 401 for an expired token is stored like any answer: the same write with
a good token is replayed the 401, where the stack would create. -/
theorem expired_token_locked_in :
    let app := managementApp platform
    let expired := createRequest (some "expired-token")
    let retry := createRequest (some "access-token")
    let after := serve app (.fresh backend : Served Unit Backend)
      (.write () expired)
    statusOf (dispatch app expired .empty backend).1 = 401 ∧
      statusOf (app.callNext retry after.world).1 = 201 ∧
      statusOf (dispatch app retry after.cache after.world).1 = 401 ∧
      ¬ AnsweredAfresh app key retry after.cache after.world := by
  refine ⟨rfl, rfl, rfl, fun hafresh => ?_⟩
  have hstatus : 401 = 201 := congrArg Prod.fst hafresh.2.1
  omega

end RetryWitness

end LiveStandings
