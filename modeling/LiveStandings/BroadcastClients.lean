/-
The clients behind the broadcast detection.  The Twitch client holds one app
token, minted when it is first needed, again before it expires, and once more
when Helix refuses it; the YouTube client resolves a channel once and keeps
what it was told.
-/
import LiveStandings.Broadcast
import LiveStandings.Library.Runs
import LiveStandings.Library.Tally
import Mathlib.Algebra.GroupWithZero.Nat

namespace LiveStandings

open KeyedTable PyJson InvertedIndex Runs

/-- `_TOKEN_REFRESH_SKEW_SECONDS`. -/
def tokenRefreshSkew : Int := 60

/-- Twitch as a client meets it: a clock, the token endpoint with the document
it answers, and Helix's `/streams` with its status.  A request moves the world
on; an error is one that raises. -/
structure TwitchService (W : Type) where
  monotonic : W → Int
  token : W → Except CycleError Json × W
  streams : List String → Json → W →
    Except CycleError (Nat × List HelixStream) × W

/-- `TwitchLiveClient`, and the world it is in; without a token, the token is
null. -/
structure TwitchClient (W : Type) where
  token : Json
  tokenExpiry : Int
  world : W

/-- A client as `__init__` leaves it. -/
def TwitchClient.start {W : Type} (world : W) : TwitchClient W :=
  ⟨.null, 0, world⟩

/-- A method of a client: what it returns or raises, and what it leaves. -/
abbrev ClientCall (C A : Type) := C → Except CycleError A × C

variable {C W A B : Type}

/-- One call after another; an exception ends both. -/
def ClientCall.andThen (call : ClientCall C A) (next : A → ClientCall C B) :
    ClientCall C B := fun client =>
  match call client with
  | (.error error, client) => (.error error, client)
  | (.ok value, client) => next value client

/-- `body.get("expires_in", 0)`, as far as it can be added to a time. -/
def expiresIn (body : Json) : Except PyError Int := do
  match (← body.getD "expires_in" (.int 0)).asInt? with
  | some seconds =>
      -- beyond the range of a float the sum overflows
      if seconds.natAbs >>> 970 < 2 ^ 54 - 1 then .ok seconds
      else .error .valueError
  | none => .error .typeError

/-- What is read of a token document: the token, and for how long it is
issued. -/
def readToken (body : Json) : Except PyError (Json × Except PyError Int) := do
  let token ← body.item "access_token"
  .ok (token, expiresIn body)

section Client

variable (service : TwitchService W)

/-- The request for a new token.  The token is assigned before its expiry is
computed, which may raise. -/
def mintToken : ClientCall (TwitchClient W) Json := fun client =>
  match service.token client.world with
  | (.error error, world) => (.error error, { client with world := world })
  | (.ok body, world) =>
      match readToken body with
      | .error _ => (.error .upstream, { client with world := world })
      | .ok (token, .error _) =>
          (.error .upstream, { client with token := token, world := world })
      | .ok (token, .ok seconds) =>
          (.ok token, {
            token := token
            tokenExpiry := service.monotonic world + seconds - tokenRefreshSkew
            world := world })

/-- `TwitchLiveClient._app_token`. -/
def appToken (force : Bool) : ClientCall (TwitchClient W) Json :=
  fun client =>
  if !force ∧ client.token.isNull = false ∧
      service.monotonic client.world < client.tokenExpiry then
    (.ok client.token, client)
  else mintToken service client

/-- `TwitchLiveClient._streams_request`. -/
def streamsRequest (batch : List String) (token : Json) :
    ClientCall (TwitchClient W) (Nat × List HelixStream) := fun client =>
  let (response, world) := service.streams batch token client.world
  (response, { client with world := world })

/-- `response.raise_for_status()`, and the rows of its body. -/
def checkedRows (response : Nat × List HelixStream) :
    ClientCall (TwitchClient W) (List HelixStream) := fun client =>
  (if 200 ≤ response.1 ∧ response.1 < 300 then .ok response.2
    else .error .upstream, client)

/-- The requests of `TwitchLiveClient._live_batch`. -/
def helixBatch (batch : List String) :
    ClientCall (TwitchClient W) (List HelixStream) :=
  (appToken service false).andThen fun token =>
    (streamsRequest service batch token).andThen fun response =>
      if response.1 = 401 then
        (appToken service true).andThen fun token =>
          (streamsRequest service batch token).andThen checkedRows
      else checkedRows response

/-- The loop of `TwitchLiveClient.get_live_streams`. -/
def liveBatches (library : TextLibrary)
    (live : OrderedDict String LiveStreamMeta) :
    List (List String) →
      ClientCall (TwitchClient W) (OrderedDict String LiveStreamMeta)
  | [] => fun client => (.ok live, client)
  | batch :: batches =>
      (helixBatch service batch).andThen fun rows =>
        liveBatches library
          (live.overwriteAll (ofPairs (livePairs library rows)).rows) batches

/-- `TwitchLiveClient.get_live_streams`, its requests included. -/
def getLiveStreamsFrom (library : TextLibrary) (logins : List String) :
    ClientCall (TwitchClient W) (OrderedDict String LiveStreamMeta) :=
  liveBatches service library Table.empty (batches twitchStreamsBatch logins)

end Client

/-! ### What a cycle returns -/

section Answers

variable {service : TwitchService W} {client client' : TwitchClient W}

/-- What each batch of a cycle is answered, one after the other. -/
def batchAnswers (service : TwitchService W) :
    List (List String) → TwitchClient W →
      List (List String × Except CycleError (List HelixStream))
  | [], _ => []
  | batch :: batches, client =>
      let (answer, client) := helixBatch service batch client
      (batch, answer) :: batchAnswers service batches client

/-- The pure model does what the client did, for a Helix with its answers. -/
theorem liveBatches_eq (library : TextLibrary) (helix : Helix)
    (live : OrderedDict String LiveStreamMeta) (batches : List (List String))
    (client : TwitchClient W)
    (hanswers : ∀ pair ∈ batchAnswers service batches client,
      helix pair.1 = pair.2) :
    (liveBatches service library live batches client).1 =
      batches.foldlM (fun live batch => do
        .ok (live.overwriteAll (← liveBatch library helix batch).rows))
          live := by
  induction batches generalizing live client with
  | nil => rfl
  | cons batch batches ih =>
      rw [List.foldlM_cons, liveBatches, ClientCall.andThen]
      simp only [batchAnswers, List.forall_mem_cons] at hanswers
      obtain ⟨hbatch, hrest⟩ := hanswers
      rw [liveBatch, hbatch]
      split
      · next error middle hcall =>
          rw [hcall]
          rfl
      · next rows middle hcall =>
          rw [hcall] at hrest ⊢
          exact ih _ middle hrest

theorem batchAnswers_keys (batches : List (List String))
    (client : TwitchClient W) :
    (batchAnswers service batches client).map Prod.fst = batches := by
  induction batches generalizing client with
  | nil => rfl
  | cons batch batches ih =>
      rw [batchAnswers, List.map_cons, ih]

/-- A cycle over distinct logins does what the pure model does for a Helix that
answers its batches as they were answered. -/
theorem cycle_eq (library : TextLibrary) {logins : List String}
    (hnodup : logins.Nodup) (client : TwitchClient W) :
    ∃ helix : Helix,
      (getLiveStreamsFrom service library logins client).1 =
        getLiveStreams library helix logins ∧
      batchAnswers service (batches twitchStreamsBatch logins) client =
        (batches twitchStreamsBatch logins).map fun batch =>
          (batch, helix batch) := by
  let answers :=
    batchAnswers service (batches twitchStreamsBatch logins) client
  have hkeys : answers.map Prod.fst = batches twitchStreamsBatch logins :=
    batchAnswers_keys _ client
  have hdistinct : (answers.map Prod.fst).Nodup := by
    rw [hkeys]
    exact nodup_batches (by decide) hnodup
  let helix : Helix := fun batch =>
    (Dict.get? answers batch).getD (.ok [])
  have hhelix : ∀ pair ∈ answers, helix pair.1 = pair.2 := by
    intro pair hmem
    have hlookup : Dict.get? answers pair.1 = some pair.2 :=
      Tally.lookup_of_mem hdistinct hmem
    simp only [helix, hlookup, Option.getD_some]
  have hpairs : answers = (answers.map Prod.fst).map fun batch =>
      (batch, helix batch) := by
    rw [List.map_map]
    refine (List.map_id answers).symm.trans (List.map_congr_left ?_)
    exact fun pair hpair => Prod.ext rfl (hhelix pair hpair).symm
  rw [hkeys] at hpairs
  exact ⟨helix, liveBatches_eq library helix _ _ client hhelix, hpairs⟩

/-- The service honours a token it has just issued, and refuses requests with
an old one at worst. -/
structure TwitchService.Honours (service : TwitchService W) : Prop where
  issues : ∀ world, ∃ body token seconds world',
    service.token world = (.ok body, world') ∧
      readToken body = .ok (token, .ok seconds) ∧
        ∀ batch, ∃ rows world'',
          service.streams batch token world' = (.ok (200, rows), world'')
  answers : ∀ batch token world, ∃ status rows world',
    service.streams batch token world = (.ok (status, rows), world') ∧
      (status = 401 ∨ status = 200)

theorem andThen_eq {call : ClientCall (TwitchClient W) A}
    {next : A → ClientCall (TwitchClient W) B} {value : A}
    (hcall : call client = (.ok value, client')) :
    (call.andThen next) client = next value client' := by
  rw [ClientCall.andThen, hcall]

theorem appToken_force : appToken service true client =
    mintToken service client := by
  simp [appToken]

theorem mintToken_ok (hhonours : service.Honours)
    (client : TwitchClient W) :
    ∃ token client', mintToken service client = (.ok token, client') ∧
      ∀ batch, ∃ rows client'', streamsRequest service batch token client' =
        (.ok (200, rows), client'') := by
  obtain ⟨body, token, seconds, world, hissued, hread, hstreams⟩ :=
    hhonours.issues client.world
  have hmint : mintToken service client = (.ok token, {
      token := token
      tokenExpiry := service.monotonic world + seconds - tokenRefreshSkew
      world := world }) := by
    rw [mintToken, hissued]
    simp only [hread]
  refine ⟨token, _, hmint, fun batch => ?_⟩
  obtain ⟨rows, world', hanswer⟩ := hstreams batch
  exact ⟨rows, _, by rw [streamsRequest, hanswer]⟩

theorem appToken_ok (hhonours : service.Honours) (client : TwitchClient W) :
    ∃ token client', appToken service false client = (.ok token, client') := by
  obtain ⟨token, client', hmint, _⟩ := mintToken_ok hhonours client
  unfold appToken
  split
  · exact ⟨_, _, rfl⟩
  · exact ⟨token, client', hmint⟩

theorem checkedRows_ok (rows : List HelixStream) (client : TwitchClient W) :
    checkedRows (200, rows) client = (.ok rows, client) := rfl

theorem helixBatch_ok (hhonours : service.Honours) (batch : List String)
    (client : TwitchClient W) :
    ∃ rows client', helixBatch service batch client = (.ok rows, client') := by
  obtain ⟨token, held, happ⟩ := appToken_ok hhonours client
  obtain ⟨status, rows, world, hanswer, hstatus⟩ :=
    hhonours.answers batch token held.world
  have hstreams : streamsRequest service batch token held =
      (.ok (status, rows), { held with world := world }) := by
    rw [streamsRequest, hanswer]
  rw [helixBatch, andThen_eq happ, andThen_eq hstreams]
  rcases hstatus with rfl | rfl
  · obtain ⟨renewed, fresh, hmint, hserved⟩ :=
      mintToken_ok hhonours { held with world := world }
    obtain ⟨rows', client', hrows⟩ := hserved batch
    have hforced : appToken service true { held with world := world } =
        (.ok renewed, fresh) := appToken_force.trans hmint
    rw [if_pos rfl, andThen_eq hforced, andThen_eq hrows]
    exact ⟨rows', client', checkedRows_ok rows' client'⟩
  · rw [if_neg (show ¬(200 : Nat) = 401 by decide)]
    exact ⟨rows, _, checkedRows_ok rows _⟩

theorem liveBatches_ok (hhonours : service.Honours) (library : TextLibrary)
    (batches : List (List String)) (live : OrderedDict String LiveStreamMeta)
    (client : TwitchClient W) :
    ∃ live', (liveBatches service library live batches client).1 = .ok live' := by
  induction batches generalizing live client with
  | nil => exact ⟨live, rfl⟩
  | cons batch batches ih =>
      obtain ⟨rows, client', hbatch⟩ := helixBatch_ok hhonours batch client
      rw [liveBatches, andThen_eq hbatch]
      exact ih _ client'

end Answers

/-! ### What the service is asked -/

/-- A request, as the service saw it: the token that was issued, with the time
to mint it again if that could be told, or the token `/streams` was asked with
and when. -/
inductive TwitchRequest where
  | token (issued : Option (Json × Option Int))
  | streams (batch : List String) (token : Json) (time : Int)
deriving Repr

/-- What a token document is in the log. -/
def TwitchService.issuedAt (service : TwitchService W) (world : W)
    (answer : Except CycleError Json) : Option (Json × Option Int) :=
  (answer.toOption.bind fun body => (readToken body).toOption).map
    fun (token, seconds) => (token, seconds.toOption.map fun seconds =>
      service.monotonic world + seconds - tokenRefreshSkew)

/-- The service, which keeps a log of the requests. -/
def TwitchService.traced (service : TwitchService W) :
    TwitchService (W × List TwitchRequest) where
  monotonic world := service.monotonic world.1
  token world :=
    let (answer, world') := service.token world.1
    (answer, world', world.2 ++ [.token (service.issuedAt world' answer)])
  streams batch token world :=
    let (answer, world') := service.streams batch token world.1
    (answer, world',
      world.2 ++ [.streams batch token (service.monotonic world.1)])

/-- A poller's cycles, and the world going on between them. -/
inductive TwitchAct (W : Type) where
  | cycle (logins : List String)
  | elapse (world : W)

inductive TwitchStep (service : TwitchService W) (library : TextLibrary) :
    TwitchClient (W × List TwitchRequest) → TwitchAct W →
      TwitchClient (W × List TwitchRequest) → Prop where
  | cycle (client : TwitchClient (W × List TwitchRequest))
      (logins : List String) :
      TwitchStep service library client (.cycle logins)
        (getLiveStreamsFrom service.traced library logins client).2
  | elapse (client : TwitchClient (W × List TwitchRequest)) (world : W) :
      TwitchStep service library client (.elapse world)
        { client with world := (world, client.world.2) }

def TwitchRequest.issued : TwitchRequest → Option (Json × Option Int)
  | .token issued => issued
  | .streams .. => none

def TwitchRequest.isToken : TwitchRequest → Bool
  | .token _ => true
  | .streams .. => false

/-- A request made for a batch. -/
def TwitchRequest.isFor (batch : List String) : TwitchRequest → Bool
  | .token _ => true
  | .streams asked .. => asked = batch

/-- The token that was issued last. -/
def lastIssued (log : List TwitchRequest) : Option (Json × Option Int) :=
  (log.filterMap TwitchRequest.issued).getLast?

/-- The time to mint again that was told last; a new client is to mint. -/
def lastTold (log : List TwitchRequest) : Int :=
  (log.filterMap fun request => request.issued.bind (·.2)).getLast?.getD 0

/-- A token may be used: it is the one issued last, and it was only just
issued, or the time to mint again has not come. -/
def Usable (log : List TwitchRequest) (token : Json) (time : Int) : Prop :=
  ∃ told, lastIssued log = some (token, told) ∧
    (time < lastTold log ∨ log.getLast? = some (.token (some (token, told))))

/-- Every request for streams has a token that may be used. -/
def Disciplined (log : List TwitchRequest) : Prop :=
  ∀ before batch token time after,
    log = before ++ .streams batch token time :: after →
      Usable before token time

section Traced

variable {service : TwitchService W}
  {client client' client'' : TwitchClient (W × List TwitchRequest)}
  {log : List TwitchRequest}

theorem traced_token {world : W × List TwitchRequest}
    {answer : Except CycleError Json} {world' : W}
    (hanswer : service.token world.1 = (answer, world')) :
    service.traced.token world = (answer, world', world.2 ++
      [.token (service.issuedAt world' answer)]) := by
  simp [TwitchService.traced, hanswer]

theorem traced_streams {world : W × List TwitchRequest} {batch : List String}
    {token : Json} {answer : Except CycleError (Nat × List HelixStream)}
    {world' : W}
    (hanswer : service.streams batch token world.1 = (answer, world')) :
    service.traced.streams batch token world = (answer, world', world.2 ++
      [.streams batch token (service.monotonic world.1)]) := by
  simp [TwitchService.traced, hanswer]

theorem lastIssued_snoc (log : List TwitchRequest) (request : TwitchRequest) :
    lastIssued (log ++ [request]) = request.issued.or (lastIssued log) := by
  rw [lastIssued, List.filterMap_append, List.getLast?_append, lastIssued]
  cases hissued : request.issued <;> simp [hissued]

theorem lastTold_snoc (log : List TwitchRequest) (request : TwitchRequest) :
    lastTold (log ++ [request]) =
      (request.issued.bind (·.2)).getD (lastTold log) := by
  rw [lastTold, List.filterMap_append, List.getLast?_append, lastTold]
  cases htold : request.issued.bind (·.2) <;> simp [htold]

theorem Disciplined.token (hlog : Disciplined log)
    (issued : Option (Json × Option Int)) :
    Disciplined (log ++ [.token issued]) := by
  intro before batch token time after hsplit
  rcases snoc_eq_append_cons hsplit with ⟨_, _, hlast⟩ | ⟨after', _, hlog'⟩
  · cases hlast
  · exact hlog before batch token time after' hlog'

theorem Disciplined.streams (hlog : Disciplined log) {token : Json}
    {time : Int} (husable : Usable log token time) (batch : List String) :
    Disciplined (log ++ [.streams batch token time]) := by
  intro before batch' token' time' after hsplit
  rcases snoc_eq_append_cons hsplit with ⟨_, rfl, hlast⟩ | ⟨after', _, hlog'⟩
  · cases hlast
    exact husable
  · exact hlog before batch' token' time' after' hlog'

/-- The client holds the token that was issued last and the time that was told
last, and has kept to them. -/
structure Holds (client : TwitchClient (W × List TwitchRequest)) : Prop where
  issued : client.token = ((lastIssued client.world.2).map (·.1)).getD .null
  told : client.tokenExpiry = lastTold client.world.2
  disciplined : Disciplined client.world.2

/-- What a call for a batch asks the service at most: for a token, and for
streams. -/
structure Asks (batch : List String) (tokens streams : Nat)
    (client client' : TwitchClient (W × List TwitchRequest)) : Prop where
  holds : Holds client'
  spent : ∃ spent, client'.world.2 = client.world.2 ++ spent ∧
    spent.countP (·.isToken) ≤ tokens ∧ spent.countP (!·.isToken) ≤ streams ∧
      ∀ request ∈ spent, request.isFor batch

variable {batch : List String}

theorem Asks.refl (hholds : Holds client) : Asks batch 0 0 client client := by
  refine ⟨hholds, [], (List.append_nil _).symm, Nat.le_refl _, Nat.le_refl _, ?_⟩
  exact fun request hmem => absurd hmem List.not_mem_nil

theorem Asks.trans {tokens tokens' streams streams' : Nat}
    (hfirst : Asks batch tokens streams client client')
    (hsecond : Asks batch tokens' streams' client' client'') :
    Asks batch (tokens + tokens') (streams + streams') client client'' := by
  obtain ⟨spent, hlog, htokens, hstreams, hown⟩ := hfirst.spent
  obtain ⟨spent', hlog', htokens', hstreams', hown'⟩ := hsecond.spent
  refine ⟨hsecond.holds, spent ++ spent', ?_, ?_, ?_, ?_⟩
  · rw [hlog', hlog, List.append_assoc]
  · rw [List.countP_append]
    exact Nat.add_le_add htokens htokens'
  · rw [List.countP_append]
    exact Nat.add_le_add hstreams hstreams'
  · intro request hmem
    rcases List.mem_append.mp hmem with hearlier | hlater
    · exact hown request hearlier
    · exact hown' request hlater

theorem Asks.mono {tokens tokens' streams streams' : Nat}
    (hasks : Asks batch tokens streams client client')
    (htokens : tokens ≤ tokens') (hstreams : streams ≤ streams') :
    Asks batch tokens' streams' client client' := by
  obtain ⟨spent, hlog, hfew, hfew', hown⟩ := hasks.spent
  exact ⟨hasks.holds, spent, hlog, hfew.trans htokens, hfew'.trans hstreams,
    hown⟩

/-- The token at hand may be used. -/
def Ready (service : TwitchService W) (token : Json)
    (client : TwitchClient (W × List TwitchRequest)) : Prop :=
  Usable client.world.2 token (service.monotonic client.world.1)

theorem asks_of_token (hholds : Holds client') {world : W}
    {issued : Option (Json × Option Int)}
    (hworld : client'.world = (world, client.world.2 ++ [.token issued])) :
    Asks batch 1 0 client client' := by
  refine ⟨hholds, [.token issued], by rw [hworld], Nat.le_refl 1,
    Nat.le_refl 0, ?_⟩
  rintro request hmem
  cases List.mem_singleton.mp hmem
  rfl

theorem mintToken_asks (hholds : Holds client) (batch : List String) :
    Asks batch 1 0 client (mintToken service.traced client).2 ∧
      ∀ token, (mintToken service.traced client).1 = .ok token →
        Ready service token (mintToken service.traced client).2 := by
  rcases hanswer : service.token client.world.1 with ⟨answer, world⟩
  rw [mintToken, traced_token hanswer]
  -- an answer that names no token leaves what is held as it was
  have hnothing (hnone : service.issuedAt world answer = none) :
      Holds { client with world := (world, client.world.2 ++
        [.token (service.issuedAt world answer)]) } := by
    rw [hnone]
    refine ⟨?_, ?_, hholds.disciplined.token none⟩
    · rw [lastIssued_snoc]
      exact hholds.issued
    · rw [lastTold_snoc]
      exact hholds.told
  cases answer with
  | error error =>
      refine ⟨asks_of_token (hnothing rfl) rfl, fun token htoken => ?_⟩
      cases htoken
  | ok body =>
      rcases hread : readToken body with error | ⟨token, error | seconds⟩
      · have hissued : service.issuedAt world (.ok body) = none := by
          simp [TwitchService.issuedAt, Except.toOption, hread]
        simp only [hread]
        refine ⟨asks_of_token (hnothing hissued) rfl, fun token htoken => ?_⟩
        cases htoken
      · have hissued : service.issuedAt world (.ok body) =
            some (token, none) := by
          simp [TwitchService.issuedAt, Except.toOption, hread]
        simp only [hread, hissued]
        refine ⟨asks_of_token ⟨?_, ?_, hholds.disciplined.token _⟩ rfl,
          fun token htoken => ?_⟩
        · rw [lastIssued_snoc]
          rfl
        · rw [lastTold_snoc]
          exact hholds.told
        · cases htoken
      · have hissued : service.issuedAt world (.ok body) = some (token,
            some (service.monotonic world + seconds - tokenRefreshSkew)) := by
          simp [TwitchService.issuedAt, Except.toOption, hread]
        simp only [hread, hissued]
        refine ⟨asks_of_token ⟨?_, ?_, hholds.disciplined.token _⟩ rfl,
          fun token' htoken => ?_⟩
        · rw [lastIssued_snoc]
          rfl
        · rw [lastTold_snoc]
          rfl
        · cases htoken
          refine ⟨_, ?_, Or.inr (List.getLast?_concat ..)⟩
          rw [lastIssued_snoc]
          rfl

theorem appToken_asks (hholds : Holds client) (batch : List String)
    (force : Bool) :
    Asks batch 1 0 client (appToken service.traced force client).2 ∧
      ∀ token, (appToken service.traced force client).1 = .ok token →
        Ready service token (appToken service.traced force client).2 := by
  unfold appToken
  split
  · next hfresh =>
      obtain ⟨_, htoken, hearly⟩ := hfresh
      refine ⟨(Asks.refl hholds).mono (Nat.zero_le 1) (Nat.le_refl 0), ?_⟩
      intro token htoken'
      cases htoken'
      have hheld := hholds.issued
      cases hissued : lastIssued client.world.2 with
      | none =>
          rw [hheld, hissued] at htoken
          cases htoken
      | some issued =>
          rw [hissued] at hheld
          refine ⟨issued.2, ?_, Or.inl (hholds.told ▸ hearly)⟩
          rw [hheld, hissued]
          rfl
  · exact mintToken_asks hholds batch

theorem streamsRequest_asks (hholds : Holds client) {token : Json}
    (hready : Ready service token client) (batch : List String) :
    Asks batch 0 1 client
      (streamsRequest service.traced batch token client).2 := by
  rcases hanswer : service.streams batch token client.world.1 with
    ⟨answer, world⟩
  rw [streamsRequest, traced_streams hanswer]
  refine ⟨⟨?_, ?_, hholds.disciplined.streams hready batch⟩, [_], rfl,
    Nat.le_refl 0, Nat.le_refl 1, ?_⟩
  · rw [lastIssued_snoc]
    exact hholds.issued
  · rw [lastTold_snoc]
    exact hholds.told
  · intro request hmem
    cases List.mem_singleton.mp hmem
    exact decide_eq_true rfl

/-- A call that is followed by another asks what both ask. -/
theorem andThen_asks {call : ClientCall (TwitchClient (W × List TwitchRequest)) A}
    {next : A → ClientCall (TwitchClient (W × List TwitchRequest)) B}
    (tokens tokens' streams streams' : Nat)
    (hcall : Asks batch tokens streams client (call client).2)
    (hnext : ∀ value middle, call client = (.ok value, middle) →
      Asks batch tokens' streams' middle (next value middle).2) :
    Asks batch (tokens + tokens') (streams + streams') client
      ((call.andThen next) client).2 := by
  unfold ClientCall.andThen
  rcases hresult : call client with ⟨result, middle⟩
  rw [hresult] at hcall
  cases result with
  | error error =>
      exact hcall.mono (Nat.le_add_right _ _) (Nat.le_add_right _ _)
  | ok value => exact hcall.trans (hnext value middle hresult)

theorem checkedRows_asks (hholds : Holds client)
    (response : Nat × List HelixStream) :
    Asks batch 0 0 client (checkedRows response client).2 :=
  .refl hholds

theorem helixBatch_asks (hholds : Holds client) (batch : List String) :
    Asks batch 2 2 client (helixBatch service.traced batch client).2 := by
  have happ := @appToken_asks _ service _ hholds batch false
  refine andThen_asks 1 1 0 2 happ.1 fun token middle htoken => ?_
  rw [htoken] at happ
  obtain ⟨hspent, hready⟩ := happ
  have hstreams := streamsRequest_asks hspent.holds (hready token rfl) batch
  refine andThen_asks 0 1 1 1 hstreams fun response asked hasked => ?_
  rw [hasked] at hstreams
  split
  · have hforced := @appToken_asks _ service _ hstreams.holds batch true
    refine andThen_asks 1 0 0 1 hforced.1 fun renewed fresh hrenewed => ?_
    rw [hrenewed] at hforced
    have hretry := streamsRequest_asks hforced.1.holds
      (hforced.2 renewed rfl) batch
    refine andThen_asks 0 0 1 0 hretry fun answer retried hretried => ?_
    rw [hretried] at hretry
    exact checkedRows_asks hretry.holds answer
  · exact (checkedRows_asks hstreams.holds response).mono (Nat.zero_le 1)
      (Nat.zero_le 1)

end Traced

/-- The requests that were made for one batch: two for a token and two for its
streams at most. -/
structure BatchRequests (part : List String × List TwitchRequest) : Prop where
  tokens : part.2.countP (·.isToken) ≤ 2
  streams : part.2.countP (!·.isToken) ≤ 2
  own : ∀ request ∈ part.2, request.isFor part.1

/-- The log falls into the requests of batches that were asked for, in this
order. -/
def Itemized (asked : List (List String)) (log : List TwitchRequest) : Prop :=
  ∃ parts : List (List String × List TwitchRequest),
    log = parts.flatMap (·.2) ∧ (parts.map (·.1)).Sublist asked ∧
      ∀ part ∈ parts, BatchRequests part

theorem Itemized.append {asked asked' : List (List String)}
    {log log' : List TwitchRequest} (hlog : Itemized asked log)
    (hlog' : Itemized asked' log') : Itemized (asked ++ asked') (log ++ log') := by
  obtain ⟨parts, rfl, hsub, hparts⟩ := hlog
  obtain ⟨parts', rfl, hsub', hparts'⟩ := hlog'
  refine ⟨parts ++ parts', List.flatMap_append.symm, ?_, ?_⟩
  · rw [List.map_append]
    exact hsub.append hsub'
  · intro part hmem
    rcases List.mem_append.mp hmem with hearlier | hlater
    · exact hparts part hearlier
    · exact hparts' part hlater

theorem itemized_nil (asked : List (List String)) : Itemized asked [] :=
  ⟨[], rfl, List.nil_sublist _, fun _ hmem => absurd hmem List.not_mem_nil⟩

/-- A cycle asks for its batches one after the other, up to the first that
fails. -/
theorem liveBatches_itemized {service : TwitchService W}
    {client : TwitchClient (W × List TwitchRequest)} (library : TextLibrary)
    (hholds : Holds client) (live : OrderedDict String LiveStreamMeta)
    (batches : List (List String)) :
    Holds (liveBatches service.traced library live batches client).2 ∧
      ∃ spent,
        (liveBatches service.traced library live batches client).2.world.2 =
          client.world.2 ++ spent ∧ Itemized batches spent := by
  induction batches generalizing live client with
  | nil => exact ⟨hholds, [], (List.append_nil _).symm, itemized_nil []⟩
  | cons batch batches ih =>
      have hbatch := @helixBatch_asks _ service _ hholds batch
      obtain ⟨spent, hlog, htokens, hstreams, hown⟩ := hbatch.spent
      have hpart : Itemized [batch] spent := by
        refine ⟨[(batch, spent)], (List.append_nil _).symm, List.Sublist.refl _,
          ?_⟩
        rintro part hmem
        cases List.mem_singleton.mp hmem
        exact ⟨htokens, hstreams, hown⟩
      rw [liveBatches, ClientCall.andThen]
      rcases hresult : helixBatch service.traced batch client with
        ⟨result, middle⟩
      rw [hresult] at hbatch hlog
      cases result with
      | error error =>
          have hitems := hpart.append (itemized_nil batches)
          rw [List.append_nil] at hitems
          exact ⟨hbatch.holds, spent, hlog, hitems⟩
      | ok rows =>
          obtain ⟨hlast, later, hlater, hitems⟩ := ih hbatch.holds
            (live.overwriteAll (ofPairs (livePairs library rows)).rows)
          refine ⟨hlast, spent ++ later, ?_, hpart.append hitems⟩
          rw [hlater, hlog, List.append_assoc]

/-- The batches that cycles ask for. -/
def batchesAsked (acts : List (TwitchAct W)) : List (List String) :=
  acts.flatMap fun act =>
    match act with
    | .cycle logins => batches twitchStreamsBatch logins
    | .elapse _ => []

/-- Over every sequence of cycles, whatever the service answers and however the
world goes on between them: every request for streams has the token that was
issued last, which was only just issued or is used before the time to mint
again that was told last; and each batch asks twice for streams and twice for a
token at most. -/
theorem twitch_requests (service : TwitchService W) (library : TextLibrary)
    {world : W} {acts : List (TwitchAct W)}
    {client : TwitchClient (W × List TwitchRequest)}
    (hrun : Run (TwitchStep service library) (.start (world, [])) acts client) :
    Disciplined client.world.2 ∧
      Itemized (batchesAsked acts) client.world.2 := by
  have hkept : Holds client ∧ Itemized (batchesAsked acts) client.world.2 := by
    refine hrun.labelled_invariant (fun acts client =>
      Holds client ∧ Itemized (batchesAsked acts) client.world.2) ?_ ?_
    · refine ⟨⟨rfl, rfl, ?_⟩, itemized_nil _⟩
      intro before batch token time after hsplit
      cases before <;> cases hsplit
    · rintro acts client act client' ⟨hholds, hitems⟩ hstep
      have hasked : batchesAsked (acts ++ [act]) =
          batchesAsked acts ++ batchesAsked [act] := List.flatMap_append
      rw [hasked]
      cases hstep with
      | cycle logins =>
          obtain ⟨hlast, spent, hlog, hspent⟩ :=
            @liveBatches_itemized _ service _ library hholds Table.empty
              (batches twitchStreamsBatch logins)
          have hcycle : batchesAsked [TwitchAct.cycle (W := W) logins] =
              batches twitchStreamsBatch logins := List.append_nil _
          refine ⟨hlast, ?_⟩
          rw [getLiveStreamsFrom, hlog, hcycle]
          exact hitems.append hspent
      | elapse now =>
          refine ⟨⟨hholds.issued, hholds.told, hholds.disciplined⟩, ?_⟩
          rw [← List.append_nil client.world.2]
          exact hitems.append (itemized_nil _)
  exact ⟨hkept.1.disciplined, hkept.2⟩

namespace TwitchWitness

def library : TextLibrary := ⟨fun _ => none, id⟩

/-- Everyone is live, for who asks with the token that is issued. -/
def service : TwitchService Int where
  monotonic world := world
  token world := (.ok (.obj [("access_token", .str "issued"),
    ("expires_in", .int 3600)]), world)
  streams batch token world :=
    (.ok (match token with
      | .str "issued" =>
          (200, batch.map fun login => ⟨login, some "live", none, none⟩)
      | _ => (401, [])), world)

theorem honours : service.Honours where
  issues world := ⟨_, .str "issued", 3600, world, rfl, rfl,
    fun _ => ⟨_, world, rfl⟩⟩
  answers batch token world := by
    simp only [service]
    split
    · exact ⟨200, _, world, rfl, Or.inr rfl⟩
    · exact ⟨401, [], world, rfl, Or.inl rfl⟩

end TwitchWitness

open TwitchWitness in
/-- The first cycle of a client asks for a token, and for its streams. -/
theorem twitch_requests_first :
    Disciplined (getLiveStreamsFrom service.traced library ["viper"]
      (.start (0, []))).2.world.2 :=
  (twitch_requests service library
    (Run.refl.snoc (.cycle (.start (0, [])) ["viper"]))).1

/-- From any state of a client, a cycle over distinct logins does what the pure
model does for a Helix that answers each of its batches as the requests for it,
after those for the batches before, ended;
and where the service honours the tokens it issues, it does not fail, whatever
token the client still holds. -/
theorem twitch_cycle (service : TwitchService W) (library : TextLibrary)
    {logins : List String} (hnodup : logins.Nodup) (client : TwitchClient W) :
    (∃ helix : Helix,
      (getLiveStreamsFrom service library logins client).1 =
        getLiveStreams library helix logins ∧
      batchAnswers service (batches twitchStreamsBatch logins) client =
        (batches twitchStreamsBatch logins).map fun batch =>
          (batch, helix batch)) ∧
    (service.Honours → ∃ live,
      (getLiveStreamsFrom service library logins client).1 = .ok live) :=
  ⟨cycle_eq library hnodup client,
    fun hhonours => liveBatches_ok hhonours library _ _ client⟩

open TwitchWitness in
/-- The held token has been revoked. -/
theorem twitch_cycle_revoked :
    ∃ live, (getLiveStreamsFrom service library ["viper"]
      ⟨.str "revoked", 100, 0⟩).1 = .ok live :=
  (twitch_cycle service library (by decide) _).2 honours

end LiveStandings
