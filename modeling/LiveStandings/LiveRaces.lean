/-
Broadcast cycles and deletions.  A cycle reads its URLs in one session, asks
upstream, and writes in another; the rows it inserts are under foreign keys to
rows that may be gone by then.
-/
import LiveStandings.ChannelOrder
import LiveStandings.Roster
import LiveStandings.Library.Runs
import Mathlib.Logic.Function.Basic

namespace LiveStandings

open KeyedTable InvertedIndex Runs Fallible

/-- The two pollers. -/
inductive LivePoller where
  | twitch
  | youtube
deriving Repr, DecidableEq

def LivePoller.platform : LivePoller → String
  | twitch => platformTwitch
  | youtube => platformYoutube

/-- What is live, as upstream told the poller. -/
inductive LiveAnswer where
  | twitch (live : OrderedDict String LiveStreamMeta)
  | youtube (live : OrderedDict (String × String) LiveStreamMeta)

def LiveAnswer.poller : LiveAnswer → LivePoller
  | twitch _ => .twitch
  | youtube _ => .youtube

/-- The `live_rows` of the tick. -/
def LiveAnswer.liveRows (library : TextLibrary)
    (streamUrls : OrderedDict Int (List String)) :
    LiveAnswer → OrderedDict Int LiveStreamMeta
  | twitch live => spread (twitchLoginsByKey library streamUrls) live.rows
  | youtube live => spread (youtubeRefsByKey library streamUrls) live.rows

/-- The `live_hosts` of the tick. -/
def LiveAnswer.liveHosts (library : TextLibrary)
    (hostUrls : OrderedDict Int (List String)) : LiveAnswer → List Int
  | twitch live => reached (twitchLoginsByKey library hostUrls) live.rows
  | youtube live => reached (youtubeRefsByKey library hostUrls) live.rows

/-- A key lists a URL of a YouTube channel, and none of a Twitch channel. -/
def ListsYoutube (library : TextLibrary)
    (streamUrls : OrderedDict Int (List String)) (id : Int)
    (ref : String × String) : Prop :=
  (∀ login, ¬ ListsTwitch library streamUrls id login) ∧
    ∃ urls, get? streamUrls id = some urls ∧
      ∃ url ∈ urls, parseYoutubeRef library url = some ref

/-- The key lists a channel that is live. -/
def LiveAnswer.Live (library : TextLibrary)
    (urls : OrderedDict Int (List String)) (id : Int) : LiveAnswer → Prop
  | twitch live => ∃ login value, get? live login = some value ∧
      ListsTwitch library urls id login
  | youtube live => ∃ ref value, get? live ref = some value ∧
      ListsYoutube library urls id ref

/-- What a cycle holds between its answer and its end. -/
structure LiveCycle where
  streamUrls : OrderedDict Int (List String)
  hostUrls : OrderedDict Int (List String)
  answer : LiveAnswer

def LiveCycle.liveRows (library : TextLibrary) (cycle : LiveCycle) :
    OrderedDict Int LiveStreamMeta :=
  cycle.answer.liveRows library cycle.streamUrls

def LiveCycle.liveHosts (library : TextLibrary) (cycle : LiveCycle) :
    List Int :=
  cycle.answer.liveHosts library cycle.hostUrls

/-- Where a poller stands. -/
inductive LivePhase where
  | idle
  | listed (streamUrls : OrderedDict Int (List String))
  | resolved (streamUrls hostUrls : OrderedDict Int (List String))
  | answered (cycle : LiveCycle)
  | stale (cycle : LiveCycle)

/-- The roster URLs a cycle goes by. -/
def LivePhase.streamUrls :
    LivePhase → Option (OrderedDict Int (List String))
  | idle => none
  | listed streamUrls => some streamUrls
  | resolved streamUrls _ => some streamUrls
  | answered cycle => some cycle.streamUrls
  | stale cycle => some cycle.streamUrls

/-- The host URLs a cycle goes by. -/
def LivePhase.hostUrls : LivePhase → Option (OrderedDict Int (List String))
  | idle => none
  | listed _ => none
  | resolved _ hostUrls => some hostUrls
  | answered cycle => some cycle.hostUrls
  | stale cycle => some cycle.hostUrls

/-- What the management API deletes. -/
inductive Removal where
  | rosterRow (id : Int)
  | tournament (id : Int)

def Removal.apply (db : Database) : Removal → Database
  | rosterRow id => cascadeRosterRow db id
  | tournament id => cascadeTournament db id

/-- The committed database and the two pollers. -/
structure LiveRace where
  db : Database
  phase : LivePoller → LivePhase

def LiveRace.set (σ : LiveRace) (poller : LivePoller) (phase : LivePhase) :
    LiveRace :=
  { σ with phase := Function.update σ.phase poller phase }

@[simp] theorem LiveRace.set_phase_self (σ : LiveRace) (poller : LivePoller)
    (phase : LivePhase) : (σ.set poller phase).phase poller = phase :=
  Function.update_self ..

@[simp] theorem LiveRace.set_phase_of_ne (σ : LiveRace)
    {poller other : LivePoller} (hne : other ≠ poller) (phase : LivePhase) :
    (σ.set poller phase).phase other = σ.phase other :=
  Function.update_of_ne hne ..

/-- Every roster row and every tournament that is in one database is in the
other. -/
structure KeepsParents (db db' : Database) : Prop where
  rows : ∀ id, (db.tournamentPlayers.find? id).isSome = true →
    (db'.tournamentPlayers.find? id).isSome = true
  tournaments : ∀ id, (db.tournaments.find? id).isSome = true →
    (db'.tournaments.find? id).isSome = true

/-- A step of a poller, a deletion, or any other commit. -/
inductive LiveAct where
  | resolveRows (poller : LivePoller)
  | resolveHosts (poller : LivePoller)
  | answer (answer : LiveAnswer)
  | fail (poller : LivePoller)
  | compare (poller : LivePoller)
  | write (poller : LivePoller) (now : Instant)
  | remove (removal : Removal)
  | other

/-- The steps.  `fail` is a query or a call that raises; a write that raises
leaves the database as it was; what else is committed deletes no roster row and
no tournament and leaves the snapshots. -/
inductive LiveStep (library : TextLibrary) :
    LiveRace → LiveAct → LiveRace → Prop where
  | resolveRows {σ : LiveRace} {poller : LivePoller}
      (hidle : σ.phase poller = .idle) :
      LiveStep library σ (.resolveRows poller)
        (σ.set poller (.listed (getStreamUrlsByRosterRow σ.db)))
  | resolveHosts {σ : LiveRace} {poller : LivePoller}
      {streamUrls : OrderedDict Int (List String)}
      (hlisted : σ.phase poller = .listed streamUrls) :
      LiveStep library σ (.resolveHosts poller) (σ.set poller
        (.resolved streamUrls (getHostStreamUrlsByTournament σ.db)))
  | answer {σ : LiveRace} (answer : LiveAnswer)
      {streamUrls hostUrls : OrderedDict Int (List String)}
      (hresolved : σ.phase answer.poller = .resolved streamUrls hostUrls) :
      LiveStep library σ (.answer answer)
        (σ.set answer.poller (.answered ⟨streamUrls, hostUrls, answer⟩))
  | fail (σ : LiveRace) (poller : LivePoller) :
      LiveStep library σ (.fail poller) (σ.set poller .idle)
  | compare {σ : LiveRace} {poller : LivePoller} {cycle : LiveCycle}
      (hanswered : σ.phase poller = .answered cycle) :
      LiveStep library σ (.compare poller) (σ.set poller
        (if liveSetsStored σ.db poller.platform (cycle.liveRows library)
            (cycle.liveHosts library) then .idle else .stale cycle))
  | write {σ : LiveRace} {poller : LivePoller} {cycle : LiveCycle}
      (now : Instant) (hstale : σ.phase poller = .stale cycle) :
      LiveStep library σ (.write poller now)
        { σ.set poller .idle with
          db := committedState σ.db (rewriteLiveSets poller.platform
            (cycle.liveRows library) (cycle.liveHosts library) now σ.db) }
  | remove (σ : LiveRace) (removal : Removal) :
      LiveStep library σ (.remove removal)
        { σ with db := removal.apply σ.db }
  | other (σ : LiveRace) {db' : Database} (hparents : KeepsParents σ.db db')
      (hrows : db'.liveStreams = σ.db.liveStreams)
      (hhosts : db'.hostLiveStreams = σ.db.hostLiveStreams) :
      LiveStep library σ .other { σ with db := db' }

/-- The snapshots of a platform are those of exactly the roster rows and host
tournaments that are live and exist. -/
structure CommitsLive (library : TextLibrary) (poller : LivePoller)
    (cycle : LiveCycle) (db db' : Database) : Prop where
  rows : ∀ id, (∃ row ∈ db'.liveStreams.rows, row.platform = poller.platform ∧
      row.tournamentPlayerId = id) ↔
    cycle.answer.Live library cycle.streamUrls id ∧
      (db.tournamentPlayers.find? id).isSome = true
  hosts : ∀ id, ⟨id, poller.platform⟩ ∈ db'.hostLiveStreams.rows ↔
    cycle.answer.Live library cycle.hostUrls id ∧
      (db.tournaments.find? id).isSome = true

/-- All that a cycle found live exists. -/
structure LiveExists (library : TextLibrary) (cycle : LiveCycle)
    (db : Database) : Prop where
  rows : ∀ id, cycle.answer.Live library cycle.streamUrls id →
    (db.tournamentPlayers.find? id).isSome = true
  hosts : ∀ id, cycle.answer.Live library cycle.hostUrls id →
    (db.tournaments.find? id).isSome = true

/-- The foreign keys of the two snapshots. -/
structure References (db : Database) : Prop where
  rows : ∀ row ∈ db.liveStreams.rows,
    (db.tournamentPlayers.find? row.tournamentPlayerId).isSome = true
  hosts : ∀ row ∈ db.hostLiveStreams.rows,
    (db.tournaments.find? row.tournamentId).isSome = true

/-- A value is what a query made in the run read. -/
def ReadAt {A : Type} (library : TextLibrary) (start : LiveRace)
    (acts : List LiveAct) (query : LiveAct) (read : Database → A) (value : A) :
    Prop :=
  ∃ before after readAt, acts = before ++ query :: after ∧
    Run (LiveStep library) start before readAt ∧ value = read readAt.db

/-- The URLs of a cycle are those its own queries read in the run. -/
structure UrlsRead (library : TextLibrary) (start : LiveRace)
    (acts : List LiveAct) (poller : LivePoller) (phase : LivePhase) : Prop where
  rows : ∀ urls, phase.streamUrls = some urls →
    ReadAt library start acts (.resolveRows poller) getStreamUrlsByRosterRow
      urls
  hosts : ∀ urls, phase.hostUrls = some urls →
    ReadAt library start acts (.resolveHosts poller)
      getHostStreamUrlsByTournament urls

/-- How the cycles of a poller go in a run. -/
structure CycleSettled (library : TextLibrary) (start : LiveRace)
    (acts : List LiveAct) (σ : LiveRace) (poller : LivePoller) : Prop where
  read : UrlsRead library start acts poller (σ.phase poller)
  /-- Without a deletion since it began, all it finds live exists. -/
  undisturbed : ∀ cycle before after, σ.phase poller = .stale cycle →
    acts = before ++ .resolveRows poller :: after →
      (∀ removal, .remove removal ∉ after) → LiveExists library cycle σ.db
  /-- Where nothing is written, what is live is stored already. -/
  unchanged : ∀ cycle σ', σ.phase poller = .answered cycle →
    LiveStep library σ (.compare poller) σ' → σ'.phase poller = .idle →
      CommitsLive library poller cycle σ.db σ'.db
  /-- Where all of it exists, exactly that is committed, with the nudge. -/
  committed : ∀ cycle now σ', σ.phase poller = .stale cycle →
    LiveStep library σ (.write poller now) σ' →
      LiveExists library cycle σ.db →
        CommitsLive library poller cycle σ.db σ'.db ∧
          σ'.db.nudgeVersions.find? .live = some ⟨.live, now, none⟩
  /-- Where some of it is gone, nothing is committed. -/
  refused : ∀ cycle now σ', σ.phase poller = .stale cycle →
    LiveStep library σ (.write poller now) σ' →
      ¬ LiveExists library cycle σ.db → σ'.db = σ.db

section Cycles

variable {library : TextLibrary} {poller : LivePoller} {cycle : LiveCycle}
  {db : Database}

theorem mem_youtubeRefsByKey {urls : OrderedDict Int (List String)} {id : Int}
    {ref : String × String} :
    id ∈ keysOf (youtubeRefsByKey library urls) ref ↔
      ListsYoutube library urls id ref := by
  have hlink : ∀ url, ((parseTwitchLogin library url).filter
      (· ≠ "")).isSome = true ↔
        ∃ login, login ≠ "" ∧ parseTwitchLogin library url = some login := by
    intro url
    rw [Option.isSome_iff_exists]
    simp only [Option.filter_eq_some_iff, decide_eq_true_eq]
    exact exists_congr fun login => and_comm
  simp only [youtubeRefsByKey, mem_keysOf_invert, ListsYoutube, ListsTwitch,
    List.mem_filter, get?_eq_some_iff, Bool.not_eq_true', ← Bool.not_eq_true,
    List.any_eq_true, hlink]
  constructor
  · rintro ⟨listed, ⟨hlisted, hnone⟩, url, hurl, href⟩
    refine ⟨?_, listed, hlisted, url, hurl, href⟩
    rintro login ⟨hne, other, hother, url', hurl', hlogin⟩
    obtain rfl : other = listed :=
      congrArg Prod.snd (urls.eq_of_key_eq hother hlisted rfl)
    exact hnone ⟨url', hurl', login, hne, hlogin⟩
  · rintro ⟨hnone, listed, hlisted, url, hurl, href⟩
    refine ⟨listed, ⟨hlisted, ?_⟩, url, hurl, href⟩
    rintro ⟨url', hurl', login, hne, hlogin⟩
    exact hnone login ⟨hne, listed, hlisted, url', hurl', hlogin⟩

/-- An answer reaches a key exactly where the key lists a live channel. -/
theorem live_twitch_iff {live : OrderedDict String LiveStreamMeta}
    {urls : OrderedDict Int (List String)} {id : Int} :
    (LiveAnswer.twitch live).Live library urls id ↔
      ∃ value, Reaches (twitchLoginsByKey library urls) live.rows id value := by
  simp only [LiveAnswer.Live, Reaches, mem_twitchLoginsByKey, get?_eq_some_iff]
  exact exists_comm

theorem live_youtube_iff
    {live : OrderedDict (String × String) LiveStreamMeta}
    {urls : OrderedDict Int (List String)} {id : Int} :
    (LiveAnswer.youtube live).Live library urls id ↔
      ∃ value, Reaches (youtubeRefsByKey library urls) live.rows id value := by
  simp only [LiveAnswer.Live, Reaches, mem_youtubeRefsByKey, get?_eq_some_iff]
  exact exists_comm

theorem LiveAnswer.mem_liveHosts_iff (answer : LiveAnswer)
    {urls : OrderedDict Int (List String)} {id : Int} :
    id ∈ answer.liveHosts library urls ↔ answer.Live library urls id := by
  cases answer with
  | twitch live => exact mem_reached.trans live_twitch_iff.symm
  | youtube live => exact mem_reached.trans live_youtube_iff.symm

theorem LiveAnswer.get?_liveRows_iff (answer : LiveAnswer)
    {urls : OrderedDict Int (List String)} {id : Int} :
    (∃ value, get? (answer.liveRows library urls) id = some value) ↔
      answer.Live library urls id := by
  have hspread : ∀ {R : Type} [DecidableEq R]
      (index : OrderedDict R (List Int)) (answers : List (R × LiveStreamMeta)),
      (∃ value, get? (spread index answers) id = some value) ↔
        ∃ value, Reaches index answers id value := by
    intro R _ index answers
    constructor
    · rintro ⟨value, hget⟩
      exact ⟨value, reaches_of_get?_spread hget⟩
    · rintro ⟨_, hreaches⟩
      exact get?_spread_isSome hreaches
  cases answer with
  | twitch live => exact (hspread _ _).trans live_twitch_iff.symm
  | youtube live => exact (hspread _ _).trans live_youtube_iff.symm

theorem existing_iff_liveExists :
    Existing db (cycle.liveRows library) (cycle.liveHosts library) ↔
      LiveExists library cycle db := by
  constructor
  · rintro ⟨hrows, hhosts⟩
    refine ⟨fun id hlive => ?_, fun id hlive => ?_⟩
    · obtain ⟨value, hget⟩ := cycle.answer.get?_liveRows_iff.mpr hlive
      exact hrows id value hget
    · exact hhosts id (cycle.answer.mem_liveHosts_iff.mpr hlive)
  · rintro ⟨hrows, hhosts⟩
    refine ⟨fun id value hget => ?_, fun id hid => ?_⟩
    · exact hrows id (cycle.answer.get?_liveRows_iff.mp ⟨value, hget⟩)
    · exact hhosts id (cycle.answer.mem_liveHosts_iff.mp hid)

/-- A snapshot of a cycle whose rows exist is of exactly what is live and
exists. -/
theorem commitsLive_of_snapshot {db' : Database}
    (hsnapshot : Snapshot db' poller.platform (cycle.liveRows library)
      (cycle.liveHosts library)) (hexists : LiveExists library cycle db) :
    CommitsLive library poller cycle db db' := by
  constructor
  · intro id
    constructor
    · rintro ⟨row, hrow, hplatform, rfl⟩
      have hlive := cycle.answer.get?_liveRows_iff.mp
        ⟨_, (hsnapshot.rows row hplatform).mp hrow⟩
      exact ⟨hlive, hexists.rows _ hlive⟩
    · rintro ⟨hlive, _⟩
      obtain ⟨value, hget⟩ := cycle.answer.get?_liveRows_iff.mpr hlive
      exact ⟨⟨id, poller.platform, value.title, value.category⟩,
        (hsnapshot.rows _ rfl).mpr hget, rfl, rfl⟩
  · intro id
    rw [hsnapshot.hosts ⟨id, poller.platform⟩ rfl]
    constructor
    · intro hid
      have hlive := cycle.answer.mem_liveHosts_iff.mp hid
      exact ⟨hlive, hexists.hosts _ hlive⟩
    · exact fun hlive => cycle.answer.mem_liveHosts_iff.mpr hlive.1

theorem References.liveExists (hreferences : References db)
    (hsnapshot : Snapshot db poller.platform (cycle.liveRows library)
      (cycle.liveHosts library)) : LiveExists library cycle db := by
  constructor
  · intro id hlive
    obtain ⟨value, hget⟩ := cycle.answer.get?_liveRows_iff.mpr hlive
    exact hreferences.rows _ ((hsnapshot.rows
      ⟨id, poller.platform, value.title, value.category⟩ rfl).mpr hget)
  · intro id hlive
    exact hreferences.hosts _ ((hsnapshot.hosts ⟨id, poller.platform⟩ rfl).mpr
      (cycle.answer.mem_liveHosts_iff.mpr hlive))

end Cycles

section Removals

variable {db db' : Database}

theorem KeepsParents.refl (db : Database) : KeepsParents db db :=
  ⟨fun _ h => h, fun _ h => h⟩

theorem KeepsParents.trans {db'' : Database} (hfirst : KeepsParents db db')
    (hsecond : KeepsParents db' db'') : KeepsParents db db'' :=
  ⟨fun id h => hsecond.rows id (hfirst.rows id h),
    fun id h => hsecond.tournaments id (hfirst.tournaments id h)⟩

theorem References.of_keepsParents (hreferences : References db)
    (hparents : KeepsParents db db')
    (hrows : db'.liveStreams = db.liveStreams)
    (hhosts : db'.hostLiveStreams = db.hostLiveStreams) : References db' :=
  ⟨fun row hrow => hparents.rows _ (hreferences.rows row (hrows ▸ hrow)),
    fun row hrow => hparents.tournaments _
      (hreferences.hosts row (hhosts ▸ hrow))⟩

theorem find?_isSome_iff {R K : Type} {key : R → K} [DecidableEq K]
    {table : Table key} {k : K} :
    (table.find? k).isSome = true ↔ ∃ row ∈ table.rows, key row = k := by
  rw [← Table.mem_keys_iff, List.mem_map]

theorem References.removal (hreferences : References db) (removal : Removal) :
    References (removal.apply db) := by
  cases removal with
  | rosterRow id =>
      refine ⟨fun row hrow => ?_, hreferences.hosts⟩
      obtain ⟨hold, hne⟩ := List.mem_filter.mp hrow
      obtain ⟨entry, hentry, hid⟩ :=
        find?_isSome_iff.mp (hreferences.rows row hold)
      refine find?_isSome_iff.mpr ⟨entry, List.mem_filter.mpr ⟨hentry, ?_⟩, hid⟩
      rwa [hid]
  | tournament id =>
      refine ⟨fun row hrow => ?_, fun row hrow => ?_⟩
      · obtain ⟨hold, hkept⟩ := List.mem_filter.mp hrow
        obtain ⟨entry, hentry, hid⟩ :=
          find?_isSome_iff.mp (hreferences.rows row hold)
        refine find?_isSome_iff.mpr
          ⟨entry, List.mem_filter.mpr ⟨hentry, ?_⟩, hid⟩
        -- a row of the deleted tournament would have taken its streams along
        simp only [decide_not, Bool.not_eq_true', decide_eq_false_iff_not]
        intro hdeleted
        simp only [Bool.not_eq_true', List.contains_eq_mem,
          decide_eq_false_iff_not, List.mem_map, List.mem_filter] at hkept
        exact hkept ⟨entry, ⟨hentry, by simpa using hdeleted⟩, hid⟩
      · obtain ⟨hold, hne⟩ := List.mem_filter.mp hrow
        obtain ⟨tournament, htournament, hid⟩ :=
          find?_isSome_iff.mp (hreferences.hosts row hold)
        refine find?_isSome_iff.mpr
          ⟨tournament, List.mem_filter.mpr ⟨htournament, ?_⟩, hid⟩
        rwa [hid]

theorem References.rewritten (hreferences : References db) {platform : String}
    {liveRows : OrderedDict Int LiveStreamMeta} {liveHosts : List Int}
    (hexisting : Existing db liveRows liveHosts) (now : Instant) :
    References (rewritten db platform liveRows liveHosts now) := by
  have hsnapshot : Snapshot (LiveStandings.rewritten db platform liveRows
      liveHosts now) platform liveRows liveHosts := snapshot_rewritten now
  constructor
  · intro row hrow
    by_cases hplatform : row.platform = platform
    · exact hexisting.rows _ _ ((hsnapshot.rows row hplatform).mp hrow)
    · rw [Table.mem_rows_iff_part (p := row.platform) rfl,
        (part_rewritten_of_ne now hplatform).1] at hrow
      exact hreferences.rows row (Table.mem_part.mp hrow).1
  · intro row hrow
    by_cases hplatform : row.platform = platform
    · exact hexisting.hosts _ ((hsnapshot.hosts row hplatform).mp hrow)
    · rw [Table.mem_rows_iff_part (p := row.platform) rfl,
        (part_rewritten_of_ne now hplatform).2] at hrow
      exact hreferences.hosts row (Table.mem_part.mp hrow).1

end Removals

section Runs

variable {library : TextLibrary} {start σ σ' : LiveRace} {acts : List LiveAct}
  {act : LiveAct} {poller : LivePoller}

theorem References.step (hreferences : References σ.db)
    (hstep : LiveStep library σ act σ') : References σ'.db := by
  cases hstep with
  | resolveRows hidle => exact hreferences
  | resolveHosts hlisted => exact hreferences
  | answer answer hresolved => exact hreferences
  | fail poller => exact hreferences
  | compare hanswered => exact hreferences
  | @write _ cycle now hstale =>
      by_cases hexisting : Existing σ.db (cycle.liveRows library)
        (cycle.liveHosts library)
      · rw [rewriteLiveSets_of_existing _ now hexisting]
        exact hreferences.rewritten hexisting now
      · rw [rewriteLiveSets_of_vanished _ now hexisting]
        exact hreferences
  | remove removal => exact hreferences.removal removal
  | other hparents hrows hhosts =>
      exact hreferences.of_keepsParents hparents hrows hhosts

theorem LiveStep.keepsParents (hstep : LiveStep library σ act σ')
    (hkeeps : ∀ removal, act ≠ .remove removal) :
    KeepsParents σ.db σ'.db := by
  cases hstep with
  | resolveRows hidle => exact .refl _
  | resolveHosts hlisted => exact .refl _
  | answer answer hresolved => exact .refl _
  | fail poller => exact .refl _
  | compare hanswered => exact .refl _
  | @write _ cycle now hstale =>
      by_cases hexisting : Existing σ.db (cycle.liveRows library)
        (cycle.liveHosts library)
      · rw [rewriteLiveSets_of_existing _ now hexisting]
        exact ⟨fun _ h => h, fun _ h => h⟩
      · rw [rewriteLiveSets_of_vanished _ now hexisting]
        exact .refl _
  | remove removal => exact absurd rfl (hkeeps removal)
  | other hparents hrows hhosts => exact hparents

/-- A step of another poller keeps the URLs of a cycle. -/
theorem LiveRace.set_urls (σ : LiveRace) (poller actor : LivePoller)
    (phase : LivePhase) :
    (poller = actor ∧ (σ.set actor phase).phase poller = phase) ∨
      (((σ.set actor phase).phase poller).streamUrls =
          (σ.phase poller).streamUrls ∧
        ((σ.set actor phase).phase poller).hostUrls =
          (σ.phase poller).hostUrls) := by
  by_cases hactor : poller = actor
  · subst hactor
    exact Or.inl ⟨rfl, LiveRace.set_phase_self ..⟩
  · rw [LiveRace.set_phase_of_ne σ hactor]
    exact Or.inr ⟨rfl, rfl⟩

/-- A step keeps the URLs of a cycle, or ends it, or reads them. -/
theorem LiveStep.urls (hstep : LiveStep library σ act σ')
    (poller : LivePoller) :
    ((σ'.phase poller).streamUrls = (σ.phase poller).streamUrls ∧
        (σ'.phase poller).hostUrls = (σ.phase poller).hostUrls) ∨
      σ'.phase poller = .idle ∨
      (act = .resolveRows poller ∧
        σ'.phase poller = .listed (getStreamUrlsByRosterRow σ.db)) ∨
      (act = .resolveHosts poller ∧ ∃ streamUrls,
        σ.phase poller = .listed streamUrls ∧ σ'.phase poller =
          .resolved streamUrls (getHostStreamUrlsByTournament σ.db)) := by
  cases hstep with
  | @resolveRows actor hidle =>
      rcases σ.set_urls poller actor (.listed (getStreamUrlsByRosterRow σ.db))
        with ⟨rfl, hphase⟩ | hkept
      · exact Or.inr (Or.inr (Or.inl ⟨rfl, hphase⟩))
      · exact Or.inl hkept
  | @resolveHosts actor streamUrls hlisted =>
      rcases σ.set_urls poller actor (.resolved streamUrls
        (getHostStreamUrlsByTournament σ.db)) with ⟨rfl, hphase⟩ | hkept
      · exact Or.inr (Or.inr (Or.inr ⟨rfl, streamUrls, hlisted, hphase⟩))
      · exact Or.inl hkept
  | answer answer hresolved =>
      rcases σ.set_urls poller answer.poller (.answered ⟨_, _, answer⟩)
        with ⟨rfl, hphase⟩ | hkept
      · exact Or.inl (by rw [hphase, hresolved]; exact ⟨rfl, rfl⟩)
      · exact Or.inl hkept
  | fail actor =>
      rcases σ.set_urls poller actor .idle with ⟨rfl, hphase⟩ | hkept
      · exact Or.inr (Or.inl hphase)
      · exact Or.inl hkept
  | @compare actor cycle hanswered =>
      rcases σ.set_urls poller actor (if liveSetsStored σ.db actor.platform
        (cycle.liveRows library) (cycle.liveHosts library) then .idle
          else .stale cycle) with ⟨rfl, hphase⟩ | hkept
      · rw [hphase, hanswered]
        split
        · exact Or.inr (Or.inl rfl)
        · exact Or.inl ⟨rfl, rfl⟩
      · exact Or.inl hkept
  | @write actor cycle now hstale =>
      rcases σ.set_urls poller actor .idle with ⟨rfl, hphase⟩ | hkept
      · exact Or.inr (Or.inl hphase)
      · exact Or.inl hkept
  | remove removal => exact Or.inl ⟨rfl, rfl⟩
  | other hparents hrows hhosts => exact Or.inl ⟨rfl, rfl⟩

theorem ReadAt.snoc {A : Type} {query : LiveAct} {read : Database → A}
    {value : A} (hread : ReadAt library start acts query read value)
    (act : LiveAct) :
    ReadAt library start (acts ++ [act]) query read value := by
  obtain ⟨before, after, readAt, rfl, hearlier, hvalue⟩ := hread
  exact ⟨before, after ++ [act], readAt, by simp, hearlier, hvalue⟩

theorem UrlsRead.idle : UrlsRead library start acts poller .idle :=
  ⟨nofun, nofun⟩

theorem urlsRead_of_run (hidle : ∀ poller, start.phase poller = .idle)
    (hrun : Run (LiveStep library) start acts σ) (poller : LivePoller) :
    UrlsRead library start acts poller (σ.phase poller) := by
  induction hrun with
  | refl =>
      rw [hidle poller]
      exact .idle
  | @snoc acts σ σ' act hrun hstep ih =>
      rcases hstep.urls poller with ⟨hrows, hhosts⟩ | hended |
        ⟨rfl, hlisted⟩ | ⟨rfl, streamUrls, hlisted, hresolved⟩
      · exact ⟨fun urls h => (ih.rows urls (hrows ▸ h)).snoc act,
          fun urls h => (ih.hosts urls (hhosts ▸ h)).snoc act⟩
      · rw [hended]
        exact .idle
      · rw [hlisted]
        refine ⟨fun urls hurls => ?_, nofun⟩
        cases hurls
        exact ⟨acts, [], σ, rfl, hrun, rfl⟩
      · rw [hlisted] at ih
        rw [hresolved]
        refine ⟨fun urls hurls => (ih.rows urls hurls).snoc _,
          fun urls hurls => ?_⟩
        cases hurls
        exact ⟨acts, [], σ, rfl, hrun, rfl⟩

/-- All keys of a cycle's URLs exist. -/
structure UrlsExist (db : Database) (phase : LivePhase) : Prop where
  rows : ∀ urls, phase.streamUrls = some urls →
    ∀ id, (get? urls id).isSome = true →
      (db.tournamentPlayers.find? id).isSome = true
  hosts : ∀ urls, phase.hostUrls = some urls →
    ∀ id, (get? urls id).isSome = true →
      (db.tournaments.find? id).isSome = true

theorem UrlsExist.of_keepsParents {db db' : Database} {phase : LivePhase}
    (hexist : UrlsExist db phase) (hparents : KeepsParents db db') :
    UrlsExist db' phase :=
  ⟨fun urls hurls id hid => hparents.rows id (hexist.rows urls hurls id hid),
    fun urls hurls id hid =>
      hparents.tournaments id (hexist.hosts urls hurls id hid)⟩

theorem isSome_of_streamUrls (db : Database) (id : Int)
    (hid : (get? (getStreamUrlsByRosterRow db) id).isSome = true) :
    (db.tournamentPlayers.find? id).isSome = true := by
  obtain ⟨urls, hurls⟩ := Option.isSome_iff_exists.mp hid
  exact find?_isSome_iff.mpr (entry_of_streamUrls hurls)

theorem isSome_of_hostUrls (db : Database) (id : Int)
    (hid : (get? (getHostStreamUrlsByTournament db) id).isSome = true) :
    (db.tournaments.find? id).isSome = true := by
  obtain ⟨urls, hurls⟩ := Option.isSome_iff_exists.mp hid
  exact find?_isSome_iff.mpr (tournament_of_hostUrls hurls)

theorem UrlsExist.listed (db : Database) :
    UrlsExist db (.listed (getStreamUrlsByRosterRow db)) := by
  refine ⟨fun urls hurls => ?_, nofun⟩
  cases hurls
  exact isSome_of_streamUrls db

theorem UrlsExist.step (hexist : UrlsExist σ.db (σ.phase poller))
    (hstep : LiveStep library σ act σ')
    (hkeeps : ∀ removal, act ≠ .remove removal) :
    UrlsExist σ'.db (σ'.phase poller) := by
  refine UrlsExist.of_keepsParents ?_ (hstep.keepsParents hkeeps)
  rcases hstep.urls poller with ⟨hrows, hhosts⟩ | hended |
    ⟨rfl, hlisted⟩ | ⟨rfl, streamUrls, hlisted, hresolved⟩
  · exact ⟨fun urls h => hexist.rows urls (hrows ▸ h),
      fun urls h => hexist.hosts urls (hhosts ▸ h)⟩
  · rw [hended]
    exact ⟨nofun, nofun⟩
  · rw [hlisted]
    exact .listed σ.db
  · rw [hlisted] at hexist
    rw [hresolved]
    refine ⟨hexist.rows, fun urls hurls => ?_⟩
    cases hurls
    exact isSome_of_hostUrls σ.db

theorem urlsExist_of_undisturbed
    (hrun : Run (LiveStep library) start acts σ) {before after : List LiveAct}
    (hacts : acts = before ++ .resolveRows poller :: after)
    (hkeeps : ∀ removal, .remove removal ∉ after) :
    UrlsExist σ.db (σ.phase poller) := by
  induction hrun generalizing after with
  | refl => simp at hacts
  | @snoc acts σ σ' act hrun hstep ih =>
      rcases snoc_eq_append_cons hacts with
        ⟨rfl, rfl, rfl⟩ | ⟨earlier, rfl, rfl⟩
      · cases hstep with
        | resolveRows hidle =>
            rw [LiveRace.set_phase_self]
            exact .listed σ.db
      · have hearlier := ih rfl fun removal hmem =>
          hkeeps removal (List.mem_append_left _ hmem)
        exact hearlier.step hstep fun removal hact =>
          hkeeps removal (by simp [hact])

theorem LiveAnswer.Live.listed {answer : LiveAnswer}
    {urls : OrderedDict Int (List String)} {id : Int}
    (hlive : answer.Live library urls id) : (get? urls id).isSome = true := by
  cases answer with
  | twitch live =>
      obtain ⟨login, value, _, _, listed, hlisted, _⟩ := hlive
      exact Option.isSome_of_mem hlisted
  | youtube live =>
      obtain ⟨ref, value, _, _, listed, hlisted, _⟩ := hlive
      exact Option.isSome_of_mem hlisted

theorem UrlsExist.liveExists {db : Database} {cycle : LiveCycle}
    (hexist : UrlsExist db (.stale cycle)) : LiveExists library cycle db :=
  ⟨fun id hlive => hexist.rows _ rfl id hlive.listed,
    fun id hlive => hexist.hosts _ rfl id hlive.listed⟩

theorem LiveStep.compare_eq {cycle : LiveCycle}
    (hstep : LiveStep library σ (.compare poller) σ')
    (hanswered : σ.phase poller = .answered cycle) :
    σ' = σ.set poller (if liveSetsStored σ.db poller.platform
      (cycle.liveRows library) (cycle.liveHosts library) then .idle
        else .stale cycle) := by
  cases hstep with
  | compare hother =>
      rw [hanswered] at hother
      cases hother
      rfl

theorem LiveStep.write_eq {cycle : LiveCycle} {now : Instant}
    (hstep : LiveStep library σ (.write poller now) σ')
    (hstale : σ.phase poller = .stale cycle) :
    σ'.db = committedState σ.db (rewriteLiveSets poller.platform
      (cycle.liveRows library) (cycle.liveHosts library) now σ.db) := by
  cases hstep with
  | write _ hother =>
      rw [hstale] at hother
      cases hother
      rfl

theorem snapshot_of_compare {cycle : LiveCycle}
    (hstep : LiveStep library σ (.compare poller) σ')
    (hanswered : σ.phase poller = .answered cycle)
    (hended : σ'.phase poller = .idle) :
    σ'.db = σ.db ∧ Snapshot σ.db poller.platform (cycle.liveRows library)
      (cycle.liveHosts library) := by
  rw [hstep.compare_eq hanswered] at hended ⊢
  refine ⟨rfl, liveSetsStored_iff.mp ?_⟩
  by_contra hdiffers
  rw [LiveRace.set_phase_self, if_neg hdiffers] at hended
  cases hended

variable (library) in
/-- Undisturbed, a comparison and a write are `_apply_live_sets`. -/
theorem exists_run_applyLiveSets {cycle : LiveCycle}
    (hanswered : σ.phase poller = .answered cycle) (now : Instant) :
    ∃ acts σ', Run (LiveStep library) σ acts σ' ∧ σ'.phase poller = .idle ∧
      σ'.db = committedState σ.db ((applyLiveSets poller.platform
        (cycle.liveRows library) (cycle.liveHosts library) now σ.db).map
          Prod.snd) := by
  have hcompare : LiveStep library σ (.compare poller) _ :=
    .compare hanswered
  by_cases hstored : liveSetsStored σ.db poller.platform
    (cycle.liveRows library) (cycle.liveHosts library) = true
  · rw [if_pos hstored] at hcompare
    refine ⟨_, _, Run.single hcompare, LiveRace.set_phase_self .., ?_⟩
    rw [applyLiveSets, if_pos hstored]
    rfl
  · rw [if_neg hstored] at hcompare
    have hwrite : LiveStep library (σ.set poller (.stale cycle))
        (.write poller now) _ := .write now (LiveRace.set_phase_self ..)
    refine ⟨_, _, (Run.single hcompare).snoc hwrite,
      LiveRace.set_phase_self .., ?_⟩
    rw [applyLiveSets, if_neg hstored]
    change committedState σ.db (rewriteLiveSets poller.platform
      (cycle.liveRows library) (cycle.liveHosts library) now σ.db) = _
    cases rewriteLiveSets poller.platform (cycle.liveRows library)
      (cycle.liveHosts library) now σ.db <;> rfl

variable (library) in
theorem exists_run_of_resolved (answer : LiveAnswer)
    {streamUrls hostUrls : OrderedDict Int (List String)}
    (hresolved : σ.phase answer.poller = .resolved streamUrls hostUrls)
    (now : Instant) :
    ∃ acts σ', Run (LiveStep library) σ acts σ' ∧
      σ'.phase answer.poller = .idle ∧
      σ'.db = committedState σ.db ((applyLiveSets answer.poller.platform
        (answer.liveRows library streamUrls)
        (answer.liveHosts library hostUrls) now σ.db).map Prod.snd) := by
  have hanswer : LiveStep library σ (.answer answer) _ :=
    .answer answer hresolved
  obtain ⟨acts, σ', hrun, hended, hdb⟩ := exists_run_applyLiveSets library
    (LiveRace.set_phase_self σ answer.poller
      (.answered ⟨streamUrls, hostUrls, answer⟩)) now
  exact ⟨_, σ', .head hanswer hrun, hended, hdb⟩

variable (library) in
/-- An undisturbed cycle applies its answer to the URLs that are there. -/
theorem exists_run_of_answer (answer : LiveAnswer)
    (hidle : σ.phase answer.poller = .idle) (now : Instant) :
    ∃ acts σ', Run (LiveStep library) σ acts σ' ∧
      σ'.phase answer.poller = .idle ∧
      σ'.db = committedState σ.db ((applyLiveSets answer.poller.platform
        (answer.liveRows library (getStreamUrlsByRosterRow σ.db))
        (answer.liveHosts library (getHostStreamUrlsByTournament σ.db)) now
          σ.db).map Prod.snd) := by
  have hrows : LiveStep library σ (.resolveRows answer.poller) _ :=
    .resolveRows hidle
  have hhosts : LiveStep library _ (.resolveHosts answer.poller) _ :=
    .resolveHosts (LiveRace.set_phase_self σ answer.poller
      (.listed (getStreamUrlsByRosterRow σ.db)))
  obtain ⟨acts, σ', hrun, hended, hdb⟩ := exists_run_of_resolved library answer
    (LiveRace.set_phase_self (σ.set answer.poller
      (.listed (getStreamUrlsByRosterRow σ.db))) answer.poller
      (.resolved (getStreamUrlsByRosterRow σ.db)
        (getHostStreamUrlsByTournament σ.db))) now
  exact ⟨_, σ', .head hrows (.head hhosts hrun), hended, hdb⟩

theorem exists_run_of_applied (answer : LiveAnswer)
    (hidle : σ.phase answer.poller = .idle) {now : Instant} {changed : Bool}
    {db' : Database}
    (happlied : applyLiveSets answer.poller.platform
      (answer.liveRows library (getStreamUrlsByRosterRow σ.db))
      (answer.liveHosts library (getHostStreamUrlsByTournament σ.db)) now
        σ.db = .ok (changed, db')) :
    ∃ acts σ', Run (LiveStep library) σ acts σ' ∧
      σ'.phase answer.poller = .idle ∧ σ'.db = db' := by
  obtain ⟨acts, σ', hrun, hended, hdb⟩ :=
    exists_run_of_answer library answer hidle now
  rw [happlied] at hdb
  exact ⟨acts, σ', hrun, hended, hdb⟩

/-- A tick over the URLs that are there is an undisturbed cycle. -/
theorem exists_run_tickTwitchLive {helix : Helix}
    {order : List String → List String} {now : Instant} {changed : Bool}
    {db' : Database} (hidle : σ.phase .twitch = .idle)
    (htick : tickTwitchLive library helix order
      (getStreamUrlsByRosterRow σ.db) (getHostStreamUrlsByTournament σ.db) now
        σ.db = .ok (changed, db')) :
    ∃ acts σ', Run (LiveStep library) σ acts σ' ∧ σ'.phase .twitch = .idle ∧
      σ'.db = db' := by
  obtain ⟨live, happlied⟩ := applied_of_tickTwitchLive htick
  exact exists_run_of_applied (.twitch live) hidle happlied

theorem exists_run_tickYoutubeLive {youtube : YouTube}
    {order : List (String × String) → List (String × String)} {now : Instant}
    {changed : Bool} {db' : Database} (hidle : σ.phase .youtube = .idle)
    (htick : tickYoutubeLive library youtube order
      (getStreamUrlsByRosterRow σ.db) (getHostStreamUrlsByTournament σ.db) now
        σ.db = .ok (changed, db')) :
    ∃ acts σ', Run (LiveStep library) σ acts σ' ∧ σ'.phase .youtube = .idle ∧
      σ'.db = db' := by
  obtain ⟨live, happlied⟩ := applied_of_tickYoutubeLive htick
  exact exists_run_of_applied (.youtube live) hidle happlied

end Runs

/-- In every interleaving of two pollers, deletions and other commits, a cycle
goes by the URLs it read; if all it found live exists when it writes, in
particular if nothing was deleted since it began, it commits exactly that, with
the nudge, and else it commits nothing. -/
theorem live_cycle_settled (library : TextLibrary) {start σ : LiveRace}
    {acts : List LiveAct} (hidle : ∀ poller, start.phase poller = .idle)
    (hreferences : References start.db)
    (hrun : Run (LiveStep library) start acts σ) :
    ∀ poller, CycleSettled library start acts σ poller := by
  intro poller
  have hkept : References σ.db :=
    hrun.invariant (fun σ => References σ.db) hreferences
      fun _ _ _ hinv hstep => hinv.step hstep
  constructor
  case read => exact urlsRead_of_run hidle hrun poller
  case undisturbed =>
    intro cycle before after hstale hacts hkeeps
    have hexist := urlsExist_of_undisturbed hrun hacts hkeeps
    rw [hstale] at hexist
    exact hexist.liveExists
  case unchanged =>
    intro cycle σ' hanswered hstep hended
    obtain ⟨hdb, hsnapshot⟩ := snapshot_of_compare hstep hanswered hended
    rw [hdb]
    exact commitsLive_of_snapshot hsnapshot (hkept.liveExists hsnapshot)
  case committed =>
    intro cycle now σ' hstale hstep hexists
    rw [hstep.write_eq hstale, rewriteLiveSets_of_existing poller.platform now
      (existing_iff_liveExists.mpr hexists)]
    refine ⟨commitsLive_of_snapshot (snapshot_rewritten now) hexists, ?_⟩
    exact (Table.find?_overwrite ..).trans (if_pos rfl)
  case refused =>
    intro cycle now σ' hstale hstep hvanished
    rw [hstep.write_eq hstale, rewriteLiveSets_of_vanished poller.platform now
      (mt existing_iff_liveExists.mp hvanished)]
    rfl

namespace LiveRaceWitness

open ChannelOrderWitness

def entry (id : Int) (name url : String) : TournamentPlayer :=
  { id, tournamentId := 1, profileId := none, name,
    presentation := [("stream", .str url)] }

/-- Two roster rows with a channel each. -/
def roster : Database :=
  { Database.empty with
    tournamentPlayers := Table.empty.insertAll
      [entry 1 "Alice" "https://www.twitch.tv/alice",
        entry 2 "Bob" "https://www.twitch.tv/bob"] }

/-- Both channels are live. -/
def bothLive : LiveAnswer :=
  .twitch (ofPairs
    [("alice", ⟨some "ladder", none⟩), ("bob", ⟨some "finals", none⟩)])

def cycle : LiveCycle :=
  ⟨getStreamUrlsByRosterRow roster, getHostStreamUrlsByTournament roster,
    bothLive⟩

def start : LiveRace := ⟨roster, fun _ => .idle⟩

/-- The first row is deleted while the cycle is under way. -/
def removed : LiveRace :=
  { ((start.set .twitch (.listed cycle.streamUrls)).set .twitch
      (.resolved cycle.streamUrls cycle.hostUrls)).set .twitch
      (.answered cycle) with
    db := Removal.apply roster (.rosterRow 1) }

def acts : List LiveAct :=
  [.resolveRows .twitch, .resolveHosts .twitch, .answer bothLive,
    .remove (.rosterRow 1), .compare .twitch]

theorem references : References start.db :=
  ⟨nofun, nofun⟩

theorem run : Run (LiveStep ascii) start acts
    (removed.set .twitch (.stale cycle)) := by
  have hlisted : LiveStep ascii start (.resolveRows .twitch) _ :=
    .resolveRows rfl
  have hresolved := (Run.single hlisted).snoc
    (.resolveHosts (LiveRace.set_phase_self ..))
  have hremoved := (hresolved.snoc (.answer bothLive
    (LiveRace.set_phase_self ..))).snoc (.remove _ (.rosterRow 1))
  have hcompare : LiveStep ascii removed (.compare .twitch) _ :=
    .compare (show removed.phase .twitch = .answered cycle from rfl)
  have hdiffers : liveSetsStored removed.db platformTwitch
      (cycle.liveRows ascii) (cycle.liveHosts ascii) = false := by
    decide
  rw [show LivePoller.twitch.platform = platformTwitch from rfl, hdiffers]
    at hcompare
  exact hremoved.snoc hcompare

end LiveRaceWitness

open LiveRaceWitness ChannelOrderWitness in
theorem live_cycle_settled_removed :
    CycleSettled ascii start acts (removed.set .twitch (.stale cycle))
      .twitch :=
  live_cycle_settled ascii (fun _ => rfl) references run .twitch

open LiveRaceWitness ChannelOrderWitness in
/-- A cycle that found a row live which is deleted before it writes does not
commit the other live row either. -/
theorem removed_row_loses_snapshot :
    ¬ ∀ (library : TextLibrary) (start σ σ' : LiveRace) (acts : List LiveAct)
      (poller : LivePoller) (cycle : LiveCycle) (now : Instant),
        (∀ poller, start.phase poller = .idle) → References start.db →
        Run (LiveStep library) start acts σ → σ.phase poller = .stale cycle →
        LiveStep library σ (.write poller now) σ' →
          CommitsLive library poller cycle σ.db σ'.db := by
  intro hclaim
  have hcommits := hclaim ascii start _ _ acts .twitch cycle 0 (fun _ => rfl)
    references run (LiveRace.set_phase_self ..)
    (.write 0 (LiveRace.set_phase_self ..))
  have hlive : cycle.answer.Live ascii cycle.streamUrls 2 :=
    ⟨"bob", ⟨some "finals", none⟩, by decide, by decide, _, rfl,
      "https://www.twitch.tv/bob", by decide, by decide⟩
  obtain ⟨row, hrow, _⟩ := (hcommits.rows 2).mpr ⟨hlive, by decide⟩
  revert row
  decide

end LiveStandings
