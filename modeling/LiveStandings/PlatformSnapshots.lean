/-
Calls of `_apply_live_sets` in a row.  Each leaves its own platform with the
map and the set it was given, the other platforms with what they had, and a
nudge where there was something to write.
-/
import LiveStandings.LiveStreams

namespace LiveStandings

open KeyedTable InvertedIndex Fallible

/-- One call of `_apply_live_sets`, and when it is made. -/
structure LiveCall where
  platform : String
  liveRows : OrderedDict Int LiveStreamMeta
  liveHosts : List Int
  now : Instant

def LiveCall.apply (call : LiveCall) (db : Database) :
    Except PyJson.PyError (Bool × Database) :=
  applyLiveSets call.platform call.liveRows call.liveHosts call.now db

/-- The database after some calls. -/
def applyCalls (calls : List LiveCall) (db : Database) :
    Except PyJson.PyError Database :=
  calls.foldlM (fun db call => (call.apply db).map Prod.snd) db

/-- The `live` nudge carries a later version than before. -/
def LiveNudgeAdvances (db db' : Database) : Prop :=
  ∃ nudge, db'.nudgeVersions.find? .live = some nudge ∧
    ∀ previous, db.nudgeVersions.find? .live = some previous →
      previous.polledAt < nudge.polledAt

/-- The map or the set of a call differs from what its platform has. -/
def LiveCall.Changes (call : LiveCall) (db : Database) : Prop :=
  ¬ Snapshot db call.platform call.liveRows call.liveHosts

/-- What a call does to a database, and what it returns. -/
structure AppliesAlone (call : LiveCall) (db : Database) (changed : Bool)
    (db' : Database) : Prop where
  own : Snapshot db' call.platform call.liveRows call.liveHosts
  others : ∀ platform, platform ≠ call.platform →
    db'.liveStreams.part platform = db.liveStreams.part platform ∧
      db'.hostLiveStreams.part platform = db.hostLiveStreams.part platform
  changed_iff : changed = true ↔ call.Changes db
  nudge : db'.nudgeVersions.find? .live =
    if changed then some ⟨.live, call.now, none⟩
    else db.nudgeVersions.find? .live
  advances : (∀ previous, db.nudgeVersions.find? .live = some previous →
      previous.polledAt < call.now) →
    (LiveNudgeAdvances db db' ↔ call.Changes db)
  other_nudges : ∀ event, event ≠ .live →
    db'.nudgeVersions.find? event = db.nudgeVersions.find? event
  frame : db' = { db with
    liveStreams := db'.liveStreams
    hostLiveStreams := db'.hostLiveStreams
    nudgeVersions := db'.nudgeVersions }

theorem AppliesAlone.existing {call : LiveCall} {db db' : Database}
    {changed : Bool} (halone : AppliesAlone call db changed db')
    {liveRows : OrderedDict Int LiveStreamMeta} {liveHosts : List Int}
    (hexisting : Existing db liveRows liveHosts) :
    Existing db' liveRows liveHosts := by
  rw [halone.frame]
  exact ⟨hexisting.rows, hexisting.hosts⟩

theorem LiveCall.applies (call : LiveCall) {db : Database}
    (hexisting : Existing db call.liveRows call.liveHosts) :
    ∃ changed db', call.apply db = .ok (changed, db') ∧
      AppliesAlone call db changed db' := by
  by_cases hsnapshot : Snapshot db call.platform call.liveRows call.liveHosts
  · refine ⟨false, db, applyLiveSets_of_snapshot call.now hsnapshot, hsnapshot,
      fun _ _ => ⟨rfl, rfl⟩, ?_, rfl, fun _ => ?_, fun _ _ => rfl, rfl⟩
    · exact iff_of_false (by simp) (not_not_intro hsnapshot)
    · refine iff_of_false ?_ (not_not_intro hsnapshot)
      rintro ⟨nudge, hnudge, hlater⟩
      exact lt_irrefl _ (hlater nudge hnudge)
  · have hnudge : (rewritten db call.platform call.liveRows call.liveHosts
        call.now).nudgeVersions.find? .live = some ⟨.live, call.now, none⟩ := by
      rw [rewritten, Table.find?_overwrite]
      exact if_pos rfl
    refine ⟨true, _, applyLiveSets_of_existing call.now hsnapshot hexisting,
      snapshot_rewritten call.now, fun _ => part_rewritten_of_ne call.now,
      iff_of_true rfl hsnapshot, hnudge, fun hlater => ?_,
      fun event hevent => ?_, rfl⟩
    · exact iff_of_true ⟨_, hnudge, hlater⟩ hsnapshot
    · rw [rewritten, Table.find?_overwrite]
      exact if_neg hevent.symm

theorem applyCalls_ok {calls : List LiveCall} {db : Database}
    (hexisting : ∀ call ∈ calls, Existing db call.liveRows call.liveHosts) :
    ∃ db', applyCalls calls db = .ok db' ∧
      ∀ liveRows liveHosts, Existing db liveRows liveHosts →
        Existing db' liveRows liveHosts := by
  induction calls generalizing db with
  | nil => exact ⟨db, rfl, fun _ _ h => h⟩
  | cons call calls ih =>
      obtain ⟨changed, next, happly, halone⟩ :=
        call.applies (hexisting call List.mem_cons_self)
      have hrest : ∀ other ∈ calls,
          Existing next other.liveRows other.liveHosts := fun other hother =>
        halone.existing (hexisting other (List.mem_cons_of_mem call hother))
      obtain ⟨db', hcalls, hkept⟩ := ih hrest
      refine ⟨db', ?_, fun _ _ h => hkept _ _ (halone.existing h)⟩
      rw [applyCalls, List.foldlM_cons, happly]
      exact hcalls

/-- However calls for the platforms follow each other over existing rows, each
of them leaves its own platform with exactly what it was given and every other
platform as it was, and it nudges exactly if there was a difference. -/
theorem platform_snapshots_apart {db : Database} {calls : List LiveCall}
    (hexisting : ∀ call ∈ calls, Existing db call.liveRows call.liveHosts) :
    ∀ before call after, calls = before ++ call :: after →
      ∃ state changed state', applyCalls before db = .ok state ∧
        call.apply state = .ok (changed, state') ∧
          AppliesAlone call state changed state' := by
  rintro before call after rfl
  obtain ⟨state, hbefore, hkept⟩ := applyCalls_ok fun other hother =>
    hexisting other (List.mem_append_left _ hother)
  have hcall := hkept _ _ (hexisting call
    (List.mem_append_right _ List.mem_cons_self))
  obtain ⟨changed, state', happly, halone⟩ := call.applies hcall
  exact ⟨state, changed, state', hbefore, happly, halone⟩

namespace SnapshotWitness

/-- One tournament with one roster row. -/
def roster : Database :=
  { Database.empty with
    tournaments := Table.empty.insertNew
      { id := 1, slug := "spring-cup", name := "Spring Cup",
        leaderboardId := 3, rankBy := .peakRating, startDate := none,
        endDate := none, prizePoolCents := none, hostStreamUrls := [],
        presentation := [], createdAt := 0 }
    tournamentPlayers := Table.empty.insertNew
      { id := 1, tournamentId := 1, profileId := none, name := "Alice",
        presentation := [] } }

/-- The roster row and the host are live. -/
def bothLive (platform : String) (title : String) (now : Instant) : LiveCall :=
  ⟨platform, ofPairs [(1, ⟨some title, none⟩)], [1], now⟩

/-- Twitch, YouTube, and Twitch again with another title. -/
def calls : List LiveCall :=
  [bothLive platformTwitch "ladder" 1, bothLive platformYoutube "ladder" 2,
    bothLive platformTwitch "finals" 3]

theorem existing : ∀ call ∈ calls,
    Existing roster call.liveRows call.liveHosts := by
  intro call hcall
  rw [existing_iff]
  revert call
  decide

end SnapshotWitness

open SnapshotWitness in
/-- The third call changes the title of its own row. -/
theorem platform_snapshots_apart_calls :
    ∃ state changed state',
      applyCalls [bothLive platformTwitch "ladder" 1,
          bothLive platformYoutube "ladder" 2] roster = .ok state ∧
        (bothLive platformTwitch "finals" 3).apply state =
          .ok (changed, state') ∧
          AppliesAlone (bothLive platformTwitch "finals" 3) state changed
            state' :=
  platform_snapshots_apart existing _ _ [] rfl

end LiveStandings
