/-
The snapshot of who is live.  Two pollers share its two tables, a platform
each: a tick compares its platform's rows with what is live now, and rewrites
them with one nudge where they differ.
-/
import LiveStandings.Broadcast
import LiveStandings.Pollers
import LiveStandings.Library.Partitioned

namespace LiveStandings

open KeyedTable PyJson Ranking InvertedIndex Fallible

/-- `PLATFORM_YOUTUBE`. -/
def platformYoutube : String := "youtube"

/-- `_current_live_roster_rows`. -/
def currentLiveRosterRows (db : Database) (platform : String) :
    OrderedDict Int LiveStreamMeta :=
  ofPairs ((db.liveStreams.part platform).map fun row =>
    (row.tournamentPlayerId, ⟨row.title, row.category⟩))

/-- `_current_live_host_tournaments`. -/
def currentLiveHostTournaments (db : Database) (platform : String) :
    List Int :=
  (db.hostLiveStreams.part platform).map (·.tournamentId)

/-- The rows a map of live roster rows is stored as. -/
def liveStreamRows (platform : String)
    (liveRows : OrderedDict Int LiveStreamMeta) : List LiveStream :=
  (sortBy Prod.fst liveRows.rows).map fun item =>
    ⟨item.1, platform, item.2.title, item.2.category⟩

/-- The rows a list of live host tournaments is stored as. -/
def hostLiveStreamRows (platform : String) (tournamentIds : List Int) :
    List HostLiveStream :=
  tournamentIds.map (⟨·, platform⟩)

/-- `replace_live_streams`; the foreign key of an inserted row must find its
roster row. -/
def replaceLiveStreams (db : Database) (platform : String)
    (liveRows : OrderedDict Int LiveStreamMeta) : Except PyError Database :=
  if liveRows.rows.all fun item => (db.tournamentPlayers.find? item.1).isSome then
    .ok { db with
      liveStreams := db.liveStreams.replacePart platform
        (liveStreamRows platform liveRows) }
  else .error .integrityError

/-- `replace_host_live_streams`. -/
def replaceHostLiveStreams (db : Database) (platform : String)
    (tournamentIds : List Int) : Except PyError Database :=
  if tournamentIds.all fun id => (db.tournaments.find? id).isSome then
    .ok { db with
      hostLiveStreams := db.hostLiveStreams.replacePart platform
        (hostLiveStreamRows platform tournamentIds) }
  else .error .integrityError

/-- The comparison `_apply_live_sets` starts with. -/
def liveSetsStored (db : Database) (platform : String)
    (liveRows : OrderedDict Int LiveStreamMeta) (liveHosts : List Int) : Bool :=
  same (currentLiveRosterRows db platform) liveRows &&
    sortedSet (currentLiveHostTournaments db platform) = sortedSet liveHosts

/-- The writes of `_apply_live_sets`, the commit included. -/
def rewriteLiveSets (platform : String)
    (liveRows : OrderedDict Int LiveStreamMeta) (liveHosts : List Int)
    (now : Instant) (db : Database) : Except PyError Database := do
  let db ← replaceLiveStreams db platform liveRows
  let db ← replaceHostLiveStreams db platform (sortedSet liveHosts)
  match (emitNudge db.nudgeVersions .live none now).written?
      db.nudgeVersions with
  | none => .error .integrityError
  | some row =>
      .ok { db with nudgeVersions := db.nudgeVersions.overwrite row }

/-- `_apply_live_sets`. -/
def applyLiveSets (platform : String)
    (liveRows : OrderedDict Int LiveStreamMeta) (liveHosts : List Int)
    (now : Instant) (db : Database) : Except PyError (Bool × Database) :=
  if liveSetsStored db platform liveRows liveHosts then .ok (false, db)
  else (rewriteLiveSets platform liveRows liveHosts now db).map (true, ·)

/-- `_twitch_logins_by_key`. -/
def twitchLoginsByKey (library : TextLibrary)
    (streamUrls : OrderedDict Int (List String)) :
    OrderedDict String (List Int) :=
  invert (fun url => (parseTwitchLogin library url).filter (· ≠ ""))
    streamUrls.rows

/-- `_youtube_refs_by_key`: a key with a Twitch link is skipped. -/
def youtubeRefsByKey (library : TextLibrary)
    (streamUrls : OrderedDict Int (List String)) :
    OrderedDict (String × String) (List Int) :=
  invert (parseYoutubeRef library) (streamUrls.rows.filter fun item =>
    !item.2.any fun url =>
      ((parseTwitchLogin library url).filter (· ≠ "")).isSome)

/-- `set(rows_by_ref) | set(hosts_by_ref)`. -/
def allRefs {R : Type} [DecidableEq R] (rowsByRef hostsByRef :
    OrderedDict R (List Int)) : List R :=
  (rowsByRef.rows.map Prod.fst ++ hostsByRef.rows.map Prod.fst).dedup

/-- The end of either tick: the live channels are taken back to the keys that
list them. -/
def applyLive {R : Type} [DecidableEq R] (platform : String)
    (rowsByRef hostsByRef : OrderedDict R (List Int))
    (live : OrderedDict R LiveStreamMeta) (now : Instant) (db : Database) :
    Except CycleError (Bool × Database) :=
  (applyLiveSets platform (spread rowsByRef live.rows)
    (reached hostsByRef live.rows) now db).mapError .write

/-- `tick_twitch_live`.  `order` is the order in which a set of logins is
listed. -/
def tickTwitchLive (library : TextLibrary) (helix : Helix)
    (order : List String → List String)
    (streamUrls hostUrls : OrderedDict Int (List String)) (now : Instant)
    (db : Database) : Except CycleError (Bool × Database) := do
  let rowsByLogin := twitchLoginsByKey library streamUrls
  let hostsByLogin := twitchLoginsByKey library hostUrls
  let allLogins := allRefs rowsByLogin hostsByLogin
  let live ←
    if allLogins.isEmpty then .ok Table.empty
    else getLiveStreams library helix (order allLogins)
  applyLive platformTwitch rowsByLogin hostsByLogin live now db

/-- `tick_youtube_live`. -/
def tickYoutubeLive (library : TextLibrary) (youtube : YouTube)
    (order : List (String × String) → List (String × String))
    (streamUrls hostUrls : OrderedDict Int (List String)) (now : Instant)
    (db : Database) : Except CycleError (Bool × Database) := do
  let rowsByRef := youtubeRefsByKey library streamUrls
  let hostsByRef := youtubeRefsByKey library hostUrls
  let refs := allRefs rowsByRef hostsByRef
  let live ←
    if refs.isEmpty then .ok Table.empty else getLiveRefs youtube (order refs)
  applyLive platformYoutube rowsByRef hostsByRef live now db

/-- The rows of a platform are exactly a map and a set. -/
structure Snapshot (db : Database) (platform : String)
    (liveRows : OrderedDict Int LiveStreamMeta) (liveHosts : List Int) :
    Prop where
  rows : ∀ row : LiveStream, row.platform = platform →
    (row ∈ db.liveStreams.rows ↔
      get? liveRows row.tournamentPlayerId = some ⟨row.title, row.category⟩)
  hosts : ∀ row : HostLiveStream, row.platform = platform →
    (row ∈ db.hostLiveStreams.rows ↔ row.tournamentId ∈ liveHosts)

/-- The roster rows of a map and the tournaments of a set exist. -/
structure Existing (db : Database)
    (liveRows : OrderedDict Int LiveStreamMeta) (liveHosts : List Int) :
    Prop where
  rows : ∀ id value, get? liveRows id = some value →
    (db.tournamentPlayers.find? id).isSome = true
  hosts : ∀ id ∈ liveHosts, (db.tournaments.find? id).isSome = true

/-- What a rewrite leaves. -/
def rewritten (db : Database) (platform : String)
    (liveRows : OrderedDict Int LiveStreamMeta) (liveHosts : List Int)
    (now : Instant) : Database :=
  { db with
    liveStreams := db.liveStreams.replacePart platform
      (liveStreamRows platform liveRows)
    hostLiveStreams := db.hostLiveStreams.replacePart platform
      (hostLiveStreamRows platform (sortedSet liveHosts))
    nudgeVersions := db.nudgeVersions.overwrite ⟨.live, now, none⟩ }

section Apply

variable {db : Database} {platform : String}
  {liveRows : OrderedDict Int LiveStreamMeta} {liveHosts : List Int}

theorem get?_currentLiveRosterRows {id : Int} {value : LiveStreamMeta} :
    get? (currentLiveRosterRows db platform) id = some value ↔
      ⟨id, platform, value.title, value.category⟩ ∈ db.liveStreams.rows := by
  have hitem : ∀ other : LiveStreamMeta, (id, other) ∈
      ((db.liveStreams.part platform).map fun row =>
        (row.tournamentPlayerId, (⟨row.title, row.category⟩ : LiveStreamMeta))) ↔
      ⟨id, platform, other.title, other.category⟩ ∈ db.liveStreams.rows := by
    intro other
    simp only [List.mem_map, Table.mem_part, Prod.mk.injEq]
    constructor
    · rintro ⟨row, ⟨hmem, rfl⟩, rfl, rfl⟩
      exact hmem
    · exact fun hmem => ⟨_, ⟨hmem, rfl⟩, rfl, rfl⟩
  rw [currentLiveRosterRows, get?_ofPairs_of_agree, hitem]
  intro left right hleft hright
  have hrow := db.liveStreams.eq_of_key_eq ((hitem left).mp hleft)
    ((hitem right).mp hright) rfl
  cases left
  cases right
  cases hrow
  rfl

theorem mem_currentLiveHostTournaments {id : Int} :
    id ∈ currentLiveHostTournaments db platform ↔
      ⟨id, platform⟩ ∈ db.hostLiveStreams.rows := by
  simp only [currentLiveHostTournaments, List.mem_map, Table.mem_part]
  constructor
  · rintro ⟨row, ⟨hmem, rfl⟩, rfl⟩
    exact hmem
  · exact fun hmem => ⟨_, ⟨hmem, rfl⟩, rfl⟩

theorem sortedSet_eq_iff {left right : List Int} :
    sortedSet left = sortedSet right ↔ ∀ id, id ∈ left ↔ id ∈ right := by
  constructor
  · intro heq id
    rw [← mem_sortedSet, heq, mem_sortedSet]
  · intro hmem
    have hperm : left.dedup.Perm right.dedup :=
      (List.perm_ext_iff_of_nodup left.nodup_dedup right.nodup_dedup).mpr
        (by simpa using hmem)
    exact List.Perm.eq_of_pairwise' (List.pairwise_insertionSort _ _)
      (List.pairwise_insertionSort _ _)
      (((List.perm_insertionSort _ _).trans hperm).trans
        (List.perm_insertionSort _ _).symm)

theorem nodup_sortedSet (ids : List Int) : (sortedSet ids).Nodup :=
  (List.perm_insertionSort _ _).nodup_iff.mpr ids.nodup_dedup

theorem liveSetsStored_iff :
    liveSetsStored db platform liveRows liveHosts = true ↔
      Snapshot db platform liveRows liveHosts := by
  rw [liveSetsStored, Bool.and_eq_true, decide_eq_true_eq, same_iff,
    sortedSet_eq_iff]
  constructor
  · rintro ⟨hrows, hhosts⟩
    refine ⟨?_, ?_⟩
    · rintro row rfl
      rw [← hrows, get?_currentLiveRosterRows]
    · rintro row rfl
      rw [← hhosts, mem_currentLiveHostTournaments]
  · rintro ⟨hrows, hhosts⟩
    refine ⟨fun id => Option.ext fun value => ?_, fun id => ?_⟩
    · rw [get?_currentLiveRosterRows]
      exact hrows _ rfl
    · rw [mem_currentLiveHostTournaments]
      exact hhosts _ rfl

theorem mem_liveStreamRows {row : LiveStream} :
    row ∈ liveStreamRows platform liveRows ↔
      row.platform = platform ∧
        get? liveRows row.tournamentPlayerId =
          some ⟨row.title, row.category⟩ := by
  simp only [liveStreamRows, List.mem_map, mem_sortBy, get?_eq_some_iff]
  constructor
  · rintro ⟨item, hitem, rfl⟩
    exact ⟨rfl, hitem⟩
  · rintro ⟨rfl, hitem⟩
    exact ⟨_, hitem, rfl⟩

theorem nodup_liveStreamRows (platform : String)
    (liveRows : OrderedDict Int LiveStreamMeta) :
    ((liveStreamRows platform liveRows).map LiveStream.key).Nodup := by
  have hkeys : ((sortBy Prod.fst liveRows.rows).map Prod.fst).Nodup :=
    ((sortBy_perm _ _).map _).nodup_iff.mpr liveRows.keys_nodup
  have hpairs : (liveStreamRows platform liveRows).map LiveStream.key =
      ((sortBy Prod.fst liveRows.rows).map Prod.fst).map (·, platform) := by
    simp only [liveStreamRows, List.map_map]
    rfl
  rw [hpairs]
  exact hkeys.map fun _ _ heq => congrArg Prod.fst heq

theorem mem_hostLiveStreamRows {row : HostLiveStream} {ids : List Int} :
    row ∈ hostLiveStreamRows platform ids ↔
      row.platform = platform ∧ row.tournamentId ∈ ids := by
  simp only [hostLiveStreamRows, List.mem_map]
  constructor
  · rintro ⟨id, hid, rfl⟩
    exact ⟨rfl, hid⟩
  · rintro ⟨rfl, hid⟩
    exact ⟨_, hid, rfl⟩

theorem nodup_hostLiveStreamRows (platform : String) (ids : List Int) :
    ((hostLiveStreamRows platform (sortedSet ids)).map
      HostLiveStream.key).Nodup := by
  rw [hostLiveStreamRows, List.map_map]
  exact (nodup_sortedSet ids).map fun _ _ heq => congrArg Prod.fst heq

theorem part_liveStreams_rewritten (now : Instant) :
    (rewritten db platform liveRows liveHosts now).liveStreams.part platform =
      liveStreamRows platform liveRows :=
  Table.part_replacePart _ (nodup_liveStreamRows _ _) fun _ hrow =>
    (mem_liveStreamRows.mp hrow).1

theorem part_hostLiveStreams_rewritten (now : Instant) :
    (rewritten db platform liveRows liveHosts now).hostLiveStreams.part
        platform = hostLiveStreamRows platform (sortedSet liveHosts) :=
  Table.part_replacePart _ (nodup_hostLiveStreamRows _ _) fun _ hrow =>
    (mem_hostLiveStreamRows.mp hrow).1

theorem snapshot_rewritten (now : Instant) :
    Snapshot (rewritten db platform liveRows liveHosts now) platform liveRows
      liveHosts := by
  constructor
  · intro row hplatform
    rw [Table.mem_rows_iff_part
        (show (LiveStream.key row).2 = platform from hplatform),
      part_liveStreams_rewritten, mem_liveStreamRows, and_iff_right hplatform]
  · intro row hplatform
    rw [Table.mem_rows_iff_part
        (show (HostLiveStream.key row).2 = platform from hplatform),
      part_hostLiveStreams_rewritten, mem_hostLiveStreamRows,
      and_iff_right hplatform, mem_sortedSet]

theorem part_rewritten_of_ne (now : Instant) {other : String}
    (hne : other ≠ platform) :
    (rewritten db platform liveRows liveHosts now).liveStreams.part other =
        db.liveStreams.part other ∧
      (rewritten db platform liveRows liveHosts now).hostLiveStreams.part
        other = db.hostLiveStreams.part other :=
  ⟨Table.part_replacePart_of_ne _ (nodup_liveStreamRows _ _)
      (fun _ hrow => (mem_liveStreamRows.mp hrow).1) hne,
    Table.part_replacePart_of_ne _ (nodup_hostLiveStreamRows _ _)
      (fun _ hrow => (mem_hostLiveStreamRows.mp hrow).1) hne⟩

theorem existing_iff :
    Existing db liveRows liveHosts ↔
      (liveRows.rows.all fun item =>
        (db.tournamentPlayers.find? item.1).isSome) = true ∧
      ((sortedSet liveHosts).all fun id =>
        (db.tournaments.find? id).isSome) = true := by
  simp only [List.all_eq_true, mem_sortedSet]
  constructor
  · rintro ⟨hrows, hhosts⟩
    exact ⟨fun item hitem => hrows item.1 item.2 (get?_eq_some_iff.mpr hitem),
      hhosts⟩
  · rintro ⟨hrows, hhosts⟩
    exact ⟨fun id value hget => hrows _ (get?_eq_some_iff.mp hget), hhosts⟩

theorem rewriteLiveSets_of_existing (platform : String) (now : Instant)
    (hexisting : Existing db liveRows liveHosts) :
    rewriteLiveSets platform liveRows liveHosts now db =
      .ok (rewritten db platform liveRows liveHosts now) := by
  obtain ⟨hrows, hhosts⟩ := existing_iff.mp hexisting
  rw [rewriteLiveSets, replaceLiveStreams, if_pos hrows]
  simp only [bind, Except.bind, replaceHostLiveStreams, hhosts, ↓reduceIte,
    written?_emitNudge]
  rfl

theorem rewriteLiveSets_of_vanished (platform : String) (now : Instant)
    (hvanished : ¬ Existing db liveRows liveHosts) :
    rewriteLiveSets platform liveRows liveHosts now db =
      .error .integrityError := by
  rw [existing_iff, not_and_or] at hvanished
  rw [rewriteLiveSets, replaceLiveStreams]
  split
  · next hrows =>
      have hhosts := hvanished.resolve_left (not_not_intro hrows)
      simp only [bind, Except.bind, replaceHostLiveStreams, hhosts]
      rfl
  · rfl

theorem applyLiveSets_of_snapshot (now : Instant)
    (hsnapshot : Snapshot db platform liveRows liveHosts) :
    applyLiveSets platform liveRows liveHosts now db = .ok (false, db) := by
  rw [applyLiveSets, if_pos (liveSetsStored_iff.mpr hsnapshot)]

/-- Anything else is written over it with a nudge, if all of it exists. -/
theorem applyLiveSets_of_existing (now : Instant)
    (hstale : ¬ Snapshot db platform liveRows liveHosts)
    (hexisting : Existing db liveRows liveHosts) :
    applyLiveSets platform liveRows liveHosts now db =
      .ok (true, rewritten db platform liveRows liveHosts now) := by
  rw [applyLiveSets, if_neg (mt liveSetsStored_iff.mp hstale),
    rewriteLiveSets_of_existing platform now hexisting]
  rfl

theorem applyLiveSets_of_vanished (now : Instant)
    (hstale : ¬ Snapshot db platform liveRows liveHosts)
    (hvanished : ¬ Existing db liveRows liveHosts) :
    applyLiveSets platform liveRows liveHosts now db =
      .error .integrityError := by
  rw [applyLiveSets, if_neg (mt liveSetsStored_iff.mp hstale),
    rewriteLiveSets_of_vanished platform now hvanished]
  rfl

theorem applyLiveSets_ok (now : Instant)
    (hexisting : Existing db liveRows liveHosts) :
    ∃ changed db', applyLiveSets platform liveRows liveHosts now db =
      .ok (changed, db') ∧ Snapshot db' platform liveRows liveHosts := by
  by_cases hsnapshot : Snapshot db platform liveRows liveHosts
  · exact ⟨false, db, applyLiveSets_of_snapshot now hsnapshot, hsnapshot⟩
  · exact ⟨true, _, applyLiveSets_of_existing now hsnapshot hexisting,
      snapshot_rewritten now⟩

theorem snapshot_of_applyLiveSets {now : Instant} {changed : Bool}
    {db' : Database}
    (hok : applyLiveSets platform liveRows liveHosts now db =
      .ok (changed, db')) : Snapshot db' platform liveRows liveHosts := by
  by_cases hsnapshot : Snapshot db platform liveRows liveHosts
  · rw [applyLiveSets_of_snapshot now hsnapshot] at hok
    cases hok
    exact hsnapshot
  · by_cases hexisting : Existing db liveRows liveHosts
    · rw [applyLiveSets_of_existing now hsnapshot hexisting] at hok
      cases hok
      exact snapshot_rewritten now
    · rw [applyLiveSets_of_vanished now hsnapshot hexisting] at hok
      cases hok

section Congruence

variable {liveRows' : OrderedDict Int LiveStreamMeta} {liveHosts' : List Int}
  (hrows : ∀ id, get? liveRows id = get? liveRows' id)
  (hhosts : ∀ id, id ∈ liveHosts ↔ id ∈ liveHosts')

include hrows hhosts

theorem Snapshot.congr (hsnapshot : Snapshot db platform liveRows liveHosts) :
    Snapshot db platform liveRows' liveHosts' :=
  ⟨fun row hplatform => by rw [hsnapshot.rows row hplatform, hrows],
    fun row hplatform => by rw [hsnapshot.hosts row hplatform, hhosts]⟩

theorem applyLiveSets_congr (now : Instant) :
    applyLiveSets platform liveRows liveHosts now db =
      applyLiveSets platform liveRows' liveHosts' now db := by
  by_cases hsnapshot : Snapshot db platform liveRows liveHosts
  · rw [applyLiveSets_of_snapshot now hsnapshot,
      applyLiveSets_of_snapshot now (hsnapshot.congr hrows hhosts)]
  · have hstale : ¬ Snapshot db platform liveRows' liveHosts' := fun h =>
      hsnapshot (h.congr (fun id => (hrows id).symm) fun id => (hhosts id).symm)
    have hexisting : Existing db liveRows liveHosts ↔
        Existing db liveRows' liveHosts' :=
      ⟨fun h => ⟨fun id value hget => h.rows id value (hrows id ▸ hget),
          fun id hid => h.hosts id ((hhosts id).mpr hid)⟩,
        fun h => ⟨fun id value hget => h.rows id value (hrows id ▸ hget),
          fun id hid => h.hosts id ((hhosts id).mp hid)⟩⟩
    by_cases hall : Existing db liveRows liveHosts
    · rw [applyLiveSets_of_existing now hsnapshot hall,
        applyLiveSets_of_existing now hstale (hexisting.mp hall), rewritten,
        rewritten, liveStreamRows, liveStreamRows, sortBy_rows_eq hrows,
        sortedSet_eq_iff.mpr hhosts]
    · rw [applyLiveSets_of_vanished now hsnapshot hall,
        applyLiveSets_of_vanished now hstale (mt hexisting.mpr hall)]

end Congruence

end Apply

section Ticks

variable {library : TextLibrary}
  {streamUrls hostUrls : OrderedDict Int (List String)} {now : Instant}
  {db : Database} {result : Bool × Database}

/-- A tick that goes through has applied what it was told is live. -/
theorem applied_of_tickTwitchLive {helix : Helix}
    {order : List String → List String}
    (htick : tickTwitchLive library helix order streamUrls hostUrls now db =
      .ok result) :
    ∃ live : OrderedDict String LiveStreamMeta,
      applyLiveSets platformTwitch
        (spread (twitchLoginsByKey library streamUrls) live.rows)
        (reached (twitchLoginsByKey library hostUrls) live.rows) now db =
          .ok result := by
  rw [tickTwitchLive] at htick
  split at htick
  · exact ⟨Table.empty, mapError_eq_ok.mp htick⟩
  · obtain ⟨live, _, happly⟩ := bind_eq_ok.mp htick
    exact ⟨live, mapError_eq_ok.mp happly⟩

theorem applied_of_tickYoutubeLive {youtube : YouTube}
    {order : List (String × String) → List (String × String)}
    (htick : tickYoutubeLive library youtube order streamUrls hostUrls now db =
      .ok result) :
    ∃ live : OrderedDict (String × String) LiveStreamMeta,
      applyLiveSets platformYoutube
        (spread (youtubeRefsByKey library streamUrls) live.rows)
        (reached (youtubeRefsByKey library hostUrls) live.rows) now db =
          .ok result := by
  rw [tickYoutubeLive] at htick
  split at htick
  · exact ⟨Table.empty, mapError_eq_ok.mp htick⟩
  · obtain ⟨live, _, happly⟩ := bind_eq_ok.mp htick
    exact ⟨live, mapError_eq_ok.mp happly⟩

end Ticks

end LiveStandings
