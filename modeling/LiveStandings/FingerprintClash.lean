/-
What a fingerprint tells apart.  Method, path and body are hashed with one
blank between them, and a decoded path may hold blanks of its own; the path
that is hashed is what a second split leaves of it.
-/
import LiveStandings.IdempotencyCallers
import LiveStandings.Library.Delimited

namespace LiveStandings

open Delimited KeyedTable PyJson PyText

universe u v

variable {C : Type u} {W : Type v}

/-- The blank of `fingerprintInput`. -/
def blank : UInt8 := 32

theorem encode_blank : encode " " = [blank] := by
  rw [encode, toList_eq]
  decide

theorem encode_append (text text' : String) :
    encode (text ++ text') = encode text ++ encode text' :=
  toUTF8_append text text'

theorem fingerprintInput_eq (method path : String) (body : Bytes) :
    fingerprintInput method path body =
      encode method ++ blank :: (encode path ++ blank :: body) := by
  rw [fingerprintInput, encode_blank]
  simp

theorem blank_not_mem_method {method : String}
    (hmethod : method ∈ writeMethods) : blank ∉ encode method := by
  have hall : ∀ m ∈ writeMethods, blank ∉ encode m := by
    simp only [encode, toList_eq]
    decide
  exact hall method hmethod

/-- One path goes on, after a blank, with what the other's body begins with. -/
def PathTakesBody (path : String) (body : Bytes) (path' : String)
    (body' : Bytes) : Prop :=
  ∃ moved : String, path' = path ++ " " ++ moved ∧
    body = encode moved ++ blank :: body'

/-- Two pairs of a path and a body that differ in where the path ends. -/
def BlankMoves (path : String) (body : Bytes) (path' : String)
    (body' : Bytes) : Prop :=
  PathTakesBody path body path' body' ∨ PathTakesBody path' body' path body

/-- Two requests of one method whose path and body differ in where the path
ends, as it was sent or as it is hashed; or whose paths differ where the second
split does not look. -/
def Clash (request request' : Request) : Prop :=
  request.method = request'.method ∧
    (BlankMoves request.path request.body request'.path request'.body ∨
      BlankMoves request.urlPath request.body request'.urlPath request'.body ∨
      request.path ≠ request'.path ∧ request.urlPath = request'.urlPath ∧
        request.body = request'.body)

theorem shifted_iff_pathTakesBody {path path' : String} {body body' : Bytes} :
    Shifted blank (encode path) body (encode path') body' ↔
      PathTakesBody path body path' body' := by
  constructor
  · rintro ⟨moved, hpath, hbody⟩
    have hblank : encode path' = encode (path ++ " ") ++ moved := by
      rw [hpath, encode_append, encode_blank, List.append_assoc]
      rfl
    obtain ⟨text, htext, rfl⟩ := toUTF8_eq_append hblank
    exact ⟨text, htext, hbody⟩
  · rintro ⟨text, hpath, hbody⟩
    refine ⟨encode text, ?_, hbody⟩
    rw [hpath, encode_append, encode_append, encode_blank,
      List.append_assoc]
    rfl

/-- Exactly where a blank moves are two inputs hashed alike without being
alike. -/
theorem fingerprintInput_eq_iff {method method' path path' : String}
    {body body' : Bytes} (hmethod : method ∈ writeMethods)
    (hmethod' : method' ∈ writeMethods) :
    fingerprintInput method path body =
        fingerprintInput method' path' body' ↔
      method = method' ∧
        (path = path' ∧ body = body' ∨ BlankMoves path body path' body') := by
  rw [fingerprintInput_eq, fingerprintInput_eq,
    join_inj (blank_not_mem_method hmethod) (blank_not_mem_method hmethod'),
    join_eq_iff, shifted_iff_pathTakesBody, shifted_iff_pathTakesBody]
  constructor
  · rintro ⟨hencode, hsame | hmoves⟩
    · exact ⟨toUTF8_inj hencode, Or.inl ⟨toUTF8_inj hsame.1, hsame.2⟩⟩
    · exact ⟨toUTF8_inj hencode, Or.inr hmoves⟩
  · rintro ⟨hname, ⟨hpath, hbody⟩ | hmoves⟩
    · exact ⟨congrArg encode hname, Or.inl ⟨congrArg encode hpath, hbody⟩⟩
    · exact ⟨congrArg encode hname, Or.inr hmoves⟩

theorem PathTakesBody.ne {path path' : String} {body body' : Bytes}
    (htakes : PathTakesBody path body path' body') : path ≠ path' := by
  obtain ⟨moved, hpath, _⟩ := htakes
  intro hsame
  have hlength := congrArg String.length (hsame.trans hpath)
  simp only [String.length_append] at hlength
  have hone : " ".length = 1 := rfl
  omega

theorem BlankMoves.ne {path path' : String} {body body' : Bytes}
    (hmoves : BlankMoves path body path' body') : path ≠ path' := by
  rcases hmoves with htakes | htakes
  · exact htakes.ne
  · exact htakes.ne.symm

theorem urlPath_ne {request request' : Request}
    (hne : request.urlPath ≠ request'.urlPath) :
    request.path ≠ request'.path := by
  intro hsame
  rw [Request.urlPath, Request.urlPath, hsame] at hne
  exact hne rfl

/-- Once a request's answer is stored, the same key with another path or body
is answered 422 whatever was served in between, and changes nothing. -/
def ReuseRefused (C : Type u) (app : App W) (request request' : Request) :
    Prop :=
  ∀ (s : Served C W) (key : String) (caller : C) (later : List (Traffic C W)),
    KeyedWrite request key → KeyedWrite request' key →
      request.path ≠ request'.path ∨ request.body ≠ request'.body →
      lookup app request s.cache s.world = .miss key →
      statusOf (dispatch app request s.cache s.world).1 < 500 →
      let after := later.foldl (serve app) (serve app s (.write caller request))
      dispatch app request' after.cache after.world =
        (.ok (envelopeResponse (app.timestamp after.world)
          "idempotency_key_reused"
          ("Idempotency-Key was used previously with a different " ++
            "request body or path")), after.cache, after.world)

/-- The digests of method, path and body tell two requests apart, and so do
the fingerprints of the middleware, and the middleware. -/
structure Separated (C : Type u) (app : App W) (request request' : Request) :
    Prop where
  digests :
    app.sha256 (fingerprintInput request.method request.path request.body) =
        app.sha256
          (fingerprintInput request'.method request'.path request'.body) →
      request.method = request'.method ∧ request.path = request'.path ∧
        request.body = request'.body
  fingerprints : fingerprint app request = fingerprint app request' →
    request.method = request'.method ∧ request.path = request'.path ∧
      request.body = request'.body
  reuse : ReuseRefused C app request request'

theorem serveAll_keeps (app : App W) {key : String} {row : IdempotencyKey}
    (later : List (Traffic C W)) {s : Served C W}
    (hrow : s.cache.find? key = some row) :
    (later.foldl (serve app) s).cache.find? key = some row := by
  induction later generalizing s with
  | nil => exact hrow
  | cons event later ih => exact ih (serve_keeps app event hrow).1

theorem stored_of_miss {app : App W} {request : Request} {key : String}
    {s : Served C W} (caller : C)
    (hmiss : lookup app request s.cache s.world = .miss key)
    (hstatus : statusOf (dispatch app request s.cache s.world).1 < 500) :
    ∃ row, (serve app s (.write caller request)).cache.find? key = some row ∧
      row.requestFingerprint = fingerprint app request := by
  have hfresh := (lookup_eq_miss_iff.mp hmiss).2
  have hdispatch := dispatch_of_miss hmiss
  rcases hsettle : settle key (fingerprint app request)
    (app.callNext request s.world).1 s.cache with ⟨result, cache'⟩
  rw [hsettle] at hdispatch
  rcases settle_cases hsettle with ⟨hfailed, _⟩ | ⟨response, _, _, _, _, rfl⟩
  · rw [hdispatch] at hstatus
    exact absurd hstatus (Nat.not_lt.mpr hfailed)
  · refine ⟨cachedRow key (fingerprint app request) response, ?_, rfl⟩
    change (dispatch app request s.cache s.world).2.1.find? key = _
    rw [hdispatch]
    simp [Table.find?_insertNew, hfresh, cachedRow]

theorem reuseRefused_of_ne {app : App W} {request request' : Request}
    (hhash : request.path ≠ request'.path ∨ request.body ≠ request'.body →
      fingerprint app request ≠ fingerprint app request') :
    ReuseRefused C app request request' := by
  intro s key caller later _ hkeyed' hdiffer hmiss hstatus after
  obtain ⟨row, hrow, hprint⟩ := stored_of_miss caller hmiss hstatus
  have hafter : after.cache.find? key = some row :=
    serveAll_keeps app later hrow
  have hother : row.requestFingerprint ≠ fingerprint app request' :=
    hprint ▸ hhash hdiffer
  exact dispatch_of_answered (lookup_reused hkeyed' hafter hother)

/-- With a digest that tells all texts apart, two writes are told apart
exactly when no blank moves between their paths and bodies, and no two paths
become one. -/
theorem separated_iff_not_clash {app : App W}
    (hdigest : Function.Injective app.sha256) {request request' : Request}
    (hmethod : request.method ∈ writeMethods)
    (hmethod' : request'.method ∈ writeMethods) :
    Separated C app request request' ↔ ¬ Clash request request' := by
  constructor
  · rintro ⟨hdigests, hfingerprints, _⟩ ⟨hsame, hmoves | hmoves | hone⟩
    · have hinput := (fingerprintInput_eq_iff hmethod hmethod').mpr
        ⟨hsame, Or.inr hmoves⟩
      exact hmoves.ne (hdigests (congrArg app.sha256 hinput)).2.1
    · have hinput := (fingerprintInput_eq_iff hmethod hmethod').mpr
        ⟨hsame, Or.inr hmoves⟩
      exact urlPath_ne hmoves.ne
        (hfingerprints (congrArg app.sha256 hinput)).2.1
    · have hinput := (fingerprintInput_eq_iff hmethod hmethod').mpr
        ⟨hsame, Or.inl hone.2⟩
      exact hone.1 (hfingerprints (congrArg app.sha256 hinput)).2.1
  · intro hnot
    have hfingerprints : fingerprint app request = fingerprint app request' →
        request.method = request'.method ∧ request.path = request'.path ∧
          request.body = request'.body := by
      intro hprint
      obtain ⟨hsame, ⟨hurl, hbody⟩ | hmoves⟩ :=
        (fingerprintInput_eq_iff hmethod hmethod').mp (hdigest hprint)
      · refine ⟨hsame, by_contra fun hpath => hnot ⟨hsame, ?_⟩, hbody⟩
        exact Or.inr (Or.inr ⟨hpath, hurl, hbody⟩)
      · exact absurd ⟨hsame, Or.inr (Or.inl hmoves)⟩ hnot
    refine ⟨fun hprint => ?_, hfingerprints,
      reuseRefused_of_ne fun hdiffer hprint => ?_⟩
    · obtain ⟨hsame, hboth | hmoves⟩ :=
        (fingerprintInput_eq_iff hmethod hmethod').mp (hdigest hprint)
      · exact ⟨hsame, hboth⟩
      · exact absurd ⟨hsame, Or.inl hmoves⟩ hnot
    · obtain ⟨_, hpath, hbody⟩ := hfingerprints hprint
      rcases hdiffer with hother | hother
      · exact hother hpath
      · exact hother hbody

namespace ClashWitness

/-- A stack that has no routes and says which path it was asked for. -/
def echo : App Unit where
  callNext := fun request world =>
    (.ok ⟨404, .str request.path, some "application/json", [], by decide⟩,
      world)
  timestamp := fun _ => "2026-01-01T00:00:00Z"
  sha256 := id

def write (path : String) (body : Bytes) : Request where
  method := "POST"
  path := path
  body := body
  idempotencyKey := some "0a1b2c3d-0000-4000-8000-000000000000"
  accessToken := none
  contentLength := none
  clientIp := "198.51.100.7"

/-- `POST /v1/a%20b` with the body `c`, which is 99. -/
def blankInPath : Request := write "/v1/a b" [99]

/-- `POST /v1/a` with the body `b c`. -/
def blankInBody : Request := write "/v1/a" [98, 32, 99]

/-- `POST /v1/a%3Fb` with the same body as the first. -/
def markInPath : Request := write "/v1/a?b" [99]

theorem moves : BlankMoves "/v1/a b" [99] "/v1/a" [98, 32, 99] := by
  refine Or.inr ⟨"b", by decide, ?_⟩
  rw [encode, toList_eq]
  decide

end ClashWitness

open ClashWitness in
/-- Bodies without a blank are told apart. -/
theorem separated_iff_not_clash_bodies :
    Separated Unit echo (write "/v1/a" [98]) (write "/v1/a" [99]) ↔
      ¬ Clash (write "/v1/a" [98]) (write "/v1/a" [99]) :=
  separated_iff_not_clash (fun _ _ h => h) (by decide) (by decide)

open ClashWitness in
/-- A blank in the path and one in the body: the second request is replayed
the answer of the first, for a path it did not ask for.  A mark in the path is
not hashed, nor what follows it. -/
theorem blank_in_path_clashes :
    fingerprint echo blankInPath = fingerprint echo blankInBody ∧
      blankInPath.path ≠ blankInBody.path ∧
      ¬ Separated Unit echo blankInPath blankInBody ∧
      (let s := serve echo (.fresh () : Served Unit Unit) (.write () blankInPath)
      answerOf (dispatch echo blankInBody s.cache s.world).1 =
        (404, some (.str "/v1/a b"))) ∧
      ¬ Separated Unit echo markInPath (write "/v1/a" [99]) := by
  have hprint : fingerprint echo blankInPath = fingerprint echo blankInBody :=
    (fingerprintInput_eq_iff (by decide) (by decide)).mpr ⟨rfl, Or.inr moves⟩
  have hpath : blankInPath.path ≠ blankInBody.path := by decide
  refine ⟨hprint, hpath,
    fun hseparated => hpath (hseparated.fingerprints hprint).2.1, ?_,
    fun hseparated => ?_⟩
  · intro s
    have hkeyed : KeyedWrite blankInBody
        "0a1b2c3d-0000-4000-8000-000000000000" := ⟨by decide, by decide⟩
    have hstored : s.cache.find? "0a1b2c3d-0000-4000-8000-000000000000" =
        some (cachedRow "0a1b2c3d-0000-4000-8000-000000000000"
          (fingerprint echo blankInPath)
          ⟨404, .str "/v1/a b", some "application/json", [], by decide⟩) := rfl
    rw [dispatch_of_answered (lookup_hit hkeyed hstored hprint)]
    rfl
  · have hmark : markInPath.urlPath = (write "/v1/a" [99]).urlPath := by decide
    have hsame : fingerprint echo markInPath =
        fingerprint echo (write "/v1/a" [99]) := by
      rw [fingerprint, fingerprint, hmark]
      rfl
    exact absurd (hseparated.fingerprints hsame).2.1 (by decide)

end LiveStandings
