/-
Past buckets under later writes.  Every bucket is computed anew on each request,
from what was recorded by its time, from what is carried back to it, and from
the live row; it stays as it was where the last two do.
-/
import LiveStandings.HistoryWrites

namespace LiveStandings

open KeyedTable PyJson Ranking Sweep Highest Runs

/-- The ratings charted of an entrant by a time. -/
def chartedBy (db : Database) (t : Tournament) (time : Instant)
    (row : RosterRow) : List Int :=
  ((historySeries db t row).baseline
      (row.rating.map (·.maxRating))).toList ++
    (upTo time (historySeries db t row).snapPoints).map (·.2) ++
      (upTo time (historySeries db t row).points).map (·.2)

/-- The peak charted of an entrant by a time, cut at its live peak. -/
def peakBy (db : Database) (t : Tournament) (time : Instant)
    (row : RosterRow) : Option Int :=
  (chartedBy db t time row).max?.map (cut (row.rating.map (·.maxRating)))

/-- The last rating logged in the window by a time, or else the live one. -/
def loggedCurrentBy (db : Database) (t : Tournament) (time : Instant)
    (row : RosterRow) : Option Int :=
  ((upTo time (historySeries db t row).points).getLast?.map (·.2)).or
    (row.rating.map (·.currentRating))

/-- The row of a roster entry in a later database. -/
def RosterRow.later (db : Database) (t : Tournament) (row : RosterRow) :
    RosterRow :=
  rosterRow db t row.entry

/-- What a write must leave of a rated entrant for its past buckets to stay:
the observation carried in; the rating held entering the window, unless it is
not above that observation; everything, if no observation is carried in; and
the live peak, unless it cuts nothing that is charted. -/
structure KeepsPeak (t : Tournament) (last : Instant) (db db' : Database)
    (row : RosterRow) (rating : PlayerRating) : Prop where
  carried : (historySeries db' t (row.later db' t)).snapBase =
    (historySeries db t row).snapBase
  entered : ∀ carried, (historySeries db t row).snapBase = some carried →
    (historySeries db' t (row.later db' t)).entryOld =
        (historySeries db t row).entryOld ∨
      (∀ held ∈ (historySeries db t row).entryOld, held ≤ carried) ∧
        ∀ held ∈ (historySeries db' t (row.later db' t)).entryOld,
          held ≤ carried
  reconstructed : (historySeries db t row).snapBase = none →
    historySeries db' t (row.later db' t) = historySeries db t row ∧
      ((row.later db' t).rating.map (·.maxRating)) = some rating.maxRating
  uncut : (row.later db' t).rating.map (·.maxRating) =
      some rating.maxRating ∨
    ∀ value ∈ chartedBy db t last row, value ≤ rating.maxRating

/-- What a write must leave for the buckets up to `last` to stay: the same rows
are listed, and the same are rated; the peaks of the rated ones stay; and rows
that tie by some time are still ordered the same way. -/
structure Undisturbed (t : Tournament) (last : Instant) (db db' : Database) :
    Prop where
  listed : ∀ entry ∈ rosterEntries db t,
    (rosterRow db' t entry).visible = (rosterRow db t entry).visible
  unrated : ∀ row ∈ rosterRows db t, row.rating = none →
    (row.later db' t).rating = none
  peaks : ∀ row ∈ rosterRows db t, ∀ rating, row.rating = some rating →
    KeepsPeak t last db db' row rating
  ties : ∀ time ≤ last, ∀ left ∈ rosterRows db t, ∀ right ∈ rosterRows db t,
    peakBy db t time left = peakBy db t time right →
      (tieKey (loggedCurrentBy db t time) left ≤
          tieKey (loggedCurrentBy db t time) right ↔
        tieKey (loggedCurrentBy db' t time) (left.later db' t) ≤
          tieKey (loggedCurrentBy db' t time) (right.later db' t))

/-- Two frames with the same order and the same metrics. -/
structure SameFrame (frame frame' : Frame) : Prop where
  metrics : frame'.placed.map (fun placed => (placed.id, placed.metric)) =
    frame.placed.map fun placed => (placed.id, placed.metric)
  order : frame'.playerOrder = frame.playerOrder

section Frames

variable {db db' : Database} {t : Tournament} {last : Instant}

theorem placedAt_eq (hrank : t.rankBy = .peakRating) (time : Instant)
    (row : RosterRow) :
    (historyEntrant db t row).placedAt t.rankBy time =
      ⟨row.entry.id, row.entry.name, peakBy db t time row,
        loggedCurrentBy db t time row⟩ := by
  simp only [Entrant.placedAt, Entrant.trackerAt, Tracker.placed,
    Entrant.metric, Entrant.other, hrank, foldl_logPush, foldl_snapPush,
    historyEntrant, max?_recorded]
  rfl

theorem SameFrame.metricAt {frame frame' : Frame}
    (hsame : SameFrame frame frame') (id : Int) :
    frame'.metricAt id = frame.metricAt id := by
  have hfind : ∀ frame : Frame, frame.metricAt id =
      ((frame.placed.map fun placed => (placed.id, placed.metric)).find?
        fun pair => pair.1 = id).map (·.2) := by
    intro frame
    rw [Frame.metricAt, List.find?_map, Option.map_map]
    rfl
  rw [hfind, hfind, hsame.metrics]

theorem SameFrame.teamCombined {frame frame' : Frame}
    (hsame : SameFrame frame frame') (team : HistoryTeam) :
    frame'.teamCombined team = frame.teamCombined team := by
  have hmetric : frame'.metricAt = frame.metricAt := funext hsame.metricAt
  rw [Frame.teamCombined, Frame.teamCombined, hmetric]

theorem SameFrame.playerPoint {frame frame' : Frame}
    (hsame : SameFrame frame frame') (rankBy : RankBy) (id : Int) :
    frame'.playerPoint rankBy id = frame.playerPoint rankBy id := by
  unfold Frame.playerPoint
  rw [hsame.metricAt, hsame.order]

theorem SameFrame.teamPoint {frame frame' : Frame}
    (hsame : SameFrame frame frame') (rankBy : RankBy)
    (teams : List HistoryTeam) (team : HistoryTeam) :
    frame'.teamPoint rankBy teams team = frame.teamPoint rankBy teams team := by
  have hcombined : frame'.teamCombined = frame.teamCombined :=
    funext hsame.teamCombined
  unfold Frame.teamPoint Frame.teamOrder
  rw [hcombined]

theorem chartedBy_subset {time : Instant} (hle : time ≤ last)
    (row : RosterRow) : chartedBy db t time row ⊆ chartedBy db t last row := by
  intro value hvalue
  simp only [chartedBy, List.mem_append] at hvalue ⊢
  rcases hvalue with (hcarried | hsnap) | hpoint
  · exact Or.inl (Or.inl hcarried)
  · exact Or.inl (Or.inr (List.map_subset _ (upTo_subset hle _) hsnap))
  · exact Or.inr (List.map_subset _ (upTo_subset hle _) hpoint)

/-- What was recorded of a row by a time is kept by the writes after it. -/
theorem Extends.recorded (hext : Extends t last db db') (row : RosterRow)
    {time : Instant} (hle : time ≤ last) :
    upTo time (historySeries db' t (row.later db' t)).points =
        upTo time (historySeries db t row).points ∧
      upTo time (historySeries db' t (row.later db' t)).snapPoints =
        upTo time (historySeries db t row).snapPoints := by
  have hentry : (row.later db' t).entry = row.entry := rfl
  unfold historySeries
  rw [hentry]
  cases row.entry.profileId with
  | none => exact ⟨rfl, rfl⟩
  | some profileId =>
      exact ⟨hext.upTo_points profileId hle,
        hext.upTo_snapPoints profileId hle⟩

/-- The baseline of a rated entrant with an observation to carry in stays. -/
theorem KeepsPeak.baseline {row : RosterRow} {rating : PlayerRating}
    (hkeeps : KeepsPeak t last db db' row rating) {carried : Int}
    (hbase : (historySeries db t row).snapBase = some carried) (peak : Int) :
    (historySeries db' t (row.later db' t)).baseline (some peak) =
      (historySeries db t row).baseline (some rating.maxRating) := by
  rw [baseline_of_snapBase (hkeeps.carried.trans hbase),
    baseline_of_snapBase hbase]
  rcases hkeeps.entered carried hbase with hsame | ⟨hbefore, hafter⟩
  · rw [hsame]
  · have hfloor : ∀ entry : Option Int, (∀ held ∈ entry, held ≤ carried) →
        entry.elim carried (max carried) = carried := by
      intro entry hheld
      cases entry with
      | none => rfl
      | some held => exact max_eq_left (hheld held rfl)
    rw [hfloor _ hbefore, hfloor _ hafter]

theorem KeepsPeak.peakBy_eq (hext : Extends t last db db') {row : RosterRow}
    (hrow : row ∈ rosterRows db t) (hrow' : row.later db' t ∈ rosterRows db' t)
    {rating : PlayerRating} (hrating : row.rating = some rating)
    (hkeeps : KeepsPeak t last db db' row rating) {time : Instant}
    (hle : time ≤ last) :
    peakBy db' t time (row.later db' t) = peakBy db t time row := by
  obtain ⟨hpoints, hsnaps⟩ := hext.recorded row hle
  obtain ⟨hprofile, hlive⟩ := rated_row hrow hrating
  obtain ⟨rating', hlive', hraised⟩ := hext.peaks _ rating hlive
  have hrating' : (row.later db' t).rating = some rating' := by
    have hlinked : (row.later db' t).entry.profileId =
        some rating.profileId := hprofile
    rw [rating_of_listed hrow' hlinked, hlive']
  have hcharted : chartedBy db' t time (row.later db' t) =
      chartedBy db t time row := by
    unfold chartedBy
    rw [hpoints, hsnaps, hrating', hrating]
    cases hbase : (historySeries db t row).snapBase with
    | none =>
        obtain ⟨hseries, hpeak⟩ := hkeeps.reconstructed hbase
        rw [hrating'] at hpeak
        rw [hseries, hpeak]
        rfl
    | some carried =>
        rw [Option.map_some, Option.map_some, hkeeps.baseline hbase]
  rw [peakBy, peakBy, hcharted, hrating', hrating]
  rcases hkeeps.uncut with hsame | huncut
  · rw [hrating'] at hsame
    rw [hsame]
    rfl
  · have hbelow : ∀ value ∈ chartedBy db t time row,
        value ≤ rating.maxRating := fun value hvalue =>
      huncut value (chartedBy_subset hle row hvalue)
    rw [Option.map_some, Option.map_some, max?_map_cut_of_le hbelow,
      max?_map_cut_of_le fun value hvalue => (hbelow value hvalue).trans hraised]

/-- The listed rows of the later database, where the same ones are listed. -/
theorem rosterRows_later (hext : Extends t last db db')
    (hlisted : ∀ entry ∈ rosterEntries db t,
      (rosterRow db' t entry).visible = (rosterRow db t entry).visible) :
    rosterRows db' t = (rosterRows db t).map (RosterRow.later db' t) := by
  have hrows : ∀ db : Database, rosterRows db t =
      ((rosterEntries db t).filter fun entry =>
        (rosterRow db t entry).visible).map (rosterRow db t) := by
    intro db
    rw [rosterRows, rosterEntries, List.filter_map]
    rfl
  have hentries : rosterEntries db' t = rosterEntries db t := by
    rw [rosterEntries, rosterEntries, hext.roster]
  rw [hrows db', hrows db, hentries, List.map_map]
  congr 1
  exact List.filter_congr hlisted

/-- One write leaves the frames up to `last` as they were. -/
theorem sameFrame_step (hnames : UniqueNames db.tournamentPlayers)
    (hrank : t.rankBy = .peakRating) (hext : Extends t last db db')
    (hkept : Undisturbed t last db db') {time : Instant} (hle : time ≤ last) :
    SameFrame (frameAt t.rankBy (historyEntrants db t) time)
      (frameAt t.rankBy (historyEntrants db' t) time) := by
  have hrows := rosterRows_later hext hkept.listed
  let place := fun row : RosterRow =>
    (⟨row.entry.id, row.entry.name, peakBy db t time row,
      loggedCurrentBy db t time row⟩ : Placed)
  let place' := fun row : RosterRow =>
    (⟨row.entry.id, row.entry.name, peakBy db' t time (row.later db' t),
      loggedCurrentBy db' t time (row.later db' t)⟩ : Placed)
  have hplaced : (frameAt t.rankBy (historyEntrants db t) time).placed =
      (rosterRows db t).map place := by
    rw [frameAt, historyEntrants, historyRoster_eq, List.map_map]
    exact List.map_congr_left fun row _ => placedAt_eq hrank time row
  have hplaced' : (frameAt t.rankBy (historyEntrants db' t) time).placed =
      (rosterRows db t).map place' := by
    rw [frameAt, historyEntrants, historyRoster_eq, hrows, List.map_map,
      List.map_map]
    exact List.map_congr_left fun row _ =>
      placedAt_eq hrank time (row.later db' t)
  have hpeak : ∀ row ∈ rosterRows db t,
      (place' row).metric = (place row).metric := by
    intro row hrow
    have hrow' : row.later db' t ∈ rosterRows db' t := by
      rw [hrows]
      exact List.mem_map_of_mem hrow
    cases hrating : row.rating with
    | some rating =>
        exact (hkept.peaks row hrow rating hrating).peakBy_eq hext hrow hrow'
          hrating hle
    | none =>
        obtain ⟨hpoints, hsnaps⟩ := hext.recorded row hle
        change peakBy db' t time (row.later db' t) = peakBy db t time row
        rw [peakBy, peakBy, chartedBy, chartedBy, hpoints, hsnaps, hrating,
          hkept.unrated row hrow hrating]
        rfl
  constructor
  · rw [hplaced, hplaced', List.map_map, List.map_map]
    apply List.map_congr_left
    intro row hrow
    exact Prod.ext rfl (hpeak row hrow)
  · rw [Frame.playerOrder, Frame.playerOrder, hplaced, hplaced', sortBy_map,
      sortBy_map, List.map_map, List.map_map]
    have horder : sortBy (fun row => (place' row).key) (rosterRows db t) =
        sortBy (fun row => (place row).key) (rosterRows db t) := by
      refine (sortBy_eq_sortBy_iff (placedKey_injOn place' fun _ => rfl)
        (placedKey_injOn place fun _ => rfl)).mpr ?_
      intro left hleft right hright
      rw [placedKey_le_iff hnames place' (fun _ => rfl) (fun _ => rfl) hleft
        hright, placedKey_le_iff hnames place (fun _ => rfl) (fun _ => rfl)
        hleft hright, hpeak left hleft, hpeak right hright]
      refine toLex_le_congr fun htie => ?_
      exact (hkept.ties time hle left hleft right hright
        (descNullsLast_injective htie)).symm
    rw [horder]
    rfl

end Frames

/-- Every bucket time of both histories carries the same point of every entrant
and of every team. -/
structure SameBuckets (history history' : StandingsHistory) : Prop where
  players : ∀ (i j : Nat) (time : Instant), history.buckets[i]? = some time →
    history'.buckets[j]? = some time → ∀ player ∈ history.players,
      ∃ player' ∈ history'.players,
        player'.tournamentPlayerId = player.tournamentPlayerId ∧
          ∃ point, player.points[i]? = some point ∧
            player'.points[j]? = some point
  teams : ∀ (i j : Nat) (time : Instant), history.buckets[i]? = some time →
    history'.buckets[j]? = some time → ∀ team ∈ history.teams,
      ∃ team' ∈ history'.teams, team'.teamId = team.teamId ∧
        ∃ point, team.points[i]? = some point ∧ team'.points[j]? = some point

/-- The writes after `last` that leave the buckets up to it. -/
def Undisturbing (t : Tournament) (last : Instant) (db : Database)
    (write : PollerWrite) : Prop :=
  ∀ db', WriteAfter last db write db' → Undisturbed t last db db'

/-- What a run of such writes leaves, compared with its start. -/
structure Unmoving (t : Tournament) (last : Instant) (start db : Database) :
    Prop where
  listed : (rosterRows db t).map (·.entry) = (rosterRows start t).map (·.entry)
  roster : db.tournamentPlayers = start.tournamentPlayers
  teams : historyTeams db t = historyTeams start t
  frames : ∀ time ≤ last,
    SameFrame (frameAt t.rankBy (historyEntrants start t) time)
      (frameAt t.rankBy (historyEntrants db t) time)

section Run

variable {start db db' : Database} {t : Tournament} {last : Instant}

theorem Unmoving.refl (t : Tournament) (last : Instant) (start : Database) :
    Unmoving t last start start :=
  ⟨rfl, rfl, rfl, fun _ _ => ⟨rfl, rfl⟩⟩

theorem Unmoving.step (hnames : UniqueNames start.tournamentPlayers)
    (hrank : t.rankBy = .peakRating) (hunmoving : Unmoving t last start db)
    {write : PollerWrite} (hkept : Undisturbing t last db write)
    (hwrite : WriteAfter last db write db') : Unmoving t last start db' := by
  have hext := hwrite.extends t
  have hundisturbed := hkept db' hwrite
  refine ⟨?_, hext.roster.trans hunmoving.roster, ?_, fun time hle => ?_⟩
  · rw [rosterRows_later hext hundisturbed.listed, List.map_map,
      ← hunmoving.listed]
    rfl
  · rw [← hunmoving.teams, historyTeams, historyTeams, hext.teams,
      hext.members]
  · have hbefore := hunmoving.frames time hle
    have hstep := sameFrame_step (hunmoving.roster ▸ hnames) hrank hext
      hundisturbed hle
    exact ⟨hstep.metrics.trans hbefore.metrics,
      hstep.order.trans hbefore.order⟩

theorem Unmoving.of_run (hnames : UniqueNames start.tournamentPlayers)
    (hrank : t.rankBy = .peakRating) {writes : List PollerWrite}
    (hrun : Run (Guarded (Undisturbing t last) (WriteAfter last)) start
      writes db) : Unmoving t last start db :=
  hrun.invariant (Unmoving t last start) (.refl t last start)
    fun _ _ _ hinv hstep => hinv.step hnames hrank hstep.1 hstep.2

theorem frame_of_bucket {axis : Instant} {i : Nat} {time : Instant}
    (hbucket : ((historyFrames db t axis).map (·.time))[i]? = some time) :
    (historyFrames db t axis)[i]? =
        some (frameAt t.rankBy (historyEntrants db t) time) ∧
      time ∈ candidateTimes axis (inEventTimes (historyEntrants db t)) := by
  rw [List.getElem?_map] at hbucket
  obtain ⟨frame, hframe, rfl⟩ := Option.map_eq_some_iff.mp hbucket
  obtain ⟨stop, hstop, rfl⟩ :=
    mem_historyFrames (List.mem_of_getElem? hframe)
  exact ⟨hframe, hstop⟩

theorem historyStart_of_bucket {i : Nat} {time : Instant}
    (hbucket : (getStandingsHistory db t).buckets[i]? = some time) :
    ∃ axis, historyStart db t = some axis :=
  getStandingsHistory_of_buckets
    (List.ne_nil_of_mem (List.mem_of_getElem? hbucket))

theorem bucket_le_last
    (hlast : (getStandingsHistory db t).buckets.getLast? = some last) {i : Nat}
    {time : Instant}
    (hbucket : (getStandingsHistory db t).buckets[i]? = some time) :
    time ≤ last := by
  obtain ⟨axis, haxis⟩ := historyStart_of_bucket hbucket
  have hbuckets := (getStandingsHistory_of_start haxis).1
  rw [hbuckets] at hlast hbucket
  rw [List.getLast?_map, getLast?_historyFrames] at hlast
  have heq : lastTime axis (inEventTimes (historyEntrants db t)) = last :=
    Option.some.inj hlast
  exact heq ▸ le_lastTime (frame_of_bucket hbucket).2

end Run

/-- A history is append-only along every run of later writes that leave what
its buckets are computed from. -/
theorem history_append_only {start db : Database} {t : Tournament}
    (hnames : UniqueNames start.tournamentPlayers)
    (hrank : t.rankBy = .peakRating) {last : Instant}
    (hlast : (getStandingsHistory start t).buckets.getLast? = some last)
    {writes : List PollerWrite}
    (hrun : Run (Guarded (Undisturbing t last) (WriteAfter last)) start writes
      db) :
    SameBuckets (getStandingsHistory start t) (getStandingsHistory db t) := by
  have hunmoving := Unmoving.of_run hnames hrank hrun
  constructor
  · intro i j time hi hj player hplayer
    have hle := bucket_le_last hlast hi
    obtain ⟨axis, haxis⟩ := historyStart_of_bucket hi
    obtain ⟨axis', haxis'⟩ := historyStart_of_bucket hj
    obtain ⟨hbuckets, hplayers, _⟩ := getStandingsHistory_of_start haxis
    obtain ⟨hbuckets', hplayers', _⟩ := getStandingsHistory_of_start haxis'
    rw [hbuckets] at hi
    rw [hbuckets'] at hj
    rw [hplayers, mem_sortBy] at hplayer
    obtain ⟨row, hrow, rfl⟩ := List.mem_map.mp hplayer
    have hentry : row.entry ∈ (rosterRows db t).map (·.entry) := by
      rw [hunmoving.listed]
      exact List.mem_map_of_mem hrow
    obtain ⟨row', hrow', hsame⟩ := List.mem_map.mp hentry
    have hplayer' : playerSeries db t axis' row' ∈
        (getStandingsHistory db t).players := by
      rw [hplayers', mem_sortBy]
      exact List.mem_map_of_mem hrow'
    refine ⟨_, hplayer', congrArg TournamentPlayer.id hsame,
      (frameAt t.rankBy (historyEntrants start t) time).playerPoint t.rankBy
        row.entry.id, ?_, ?_⟩
    · rw [playerSeries, List.getElem?_map, (frame_of_bucket hi).1,
        Option.map_some]
    · rw [playerSeries, List.getElem?_map, (frame_of_bucket hj).1,
        Option.map_some, hsame, (hunmoving.frames time hle).playerPoint]
  · intro i j time hi hj team hteam
    have hle := bucket_le_last hlast hi
    obtain ⟨axis, haxis⟩ := historyStart_of_bucket hi
    obtain ⟨axis', haxis'⟩ := historyStart_of_bucket hj
    obtain ⟨hbuckets, _, hteams⟩ := getStandingsHistory_of_start haxis
    obtain ⟨hbuckets', _, hteams'⟩ := getStandingsHistory_of_start haxis'
    rw [hbuckets] at hi
    rw [hbuckets'] at hj
    rw [hteams, mem_sortBy] at hteam
    obtain ⟨joined, hjoined, rfl⟩ := List.mem_map.mp hteam
    have hteam' : teamSeries db t axis' joined ∈
        (getStandingsHistory db t).teams := by
      rw [hteams', mem_sortBy, hunmoving.teams]
      exact List.mem_map_of_mem hjoined
    refine ⟨_, hteam', rfl,
      (frameAt t.rankBy (historyEntrants start t) time).teamPoint t.rankBy
        (historyTeams start t) joined, ?_, ?_⟩
    · rw [teamSeries, List.getElem?_map, (frame_of_bucket hi).1,
        Option.map_some]
    · rw [teamSeries, List.getElem?_map, (frame_of_bucket hj).1,
        Option.map_some, hunmoving.teams, (hunmoving.frames time hle).teamPoint]

namespace HistoryAppendOnlyWitness

open Factory

/-- The window opened at 150 and has no end. -/
def cup : Tournament := makeTournament .peakRating (some 150) none

/-- Two peaks observed before the window. -/
def apart : Database :=
  seed [makePlayerRating 1 1500 1600, makePlayerRating 2 1490 1550]
    [makePlayerRatingSnapshot 1 1 1500 1600 100,
      makePlayerRatingSnapshot 2 2 1490 1550 100] [] []

/-- One peak, shared. -/
def level : Database :=
  seed [makePlayerRating 1 1500 1600, makePlayerRating 2 1490 1600]
    [makePlayerRatingSnapshot 1 1 1500 1600 100,
      makePlayerRatingSnapshot 2 2 1490 1600 100] [] []

/-- A stats write of the second entrant's ratings, at 300. -/
def polled (currentRating maxRating : Int) : PollerWrite :=
  .stats 300 [] [makePlayerRating 2 currentRating maxRating]

/-- The database after it. -/
def afterPoll (db : Database) (currentRating maxRating : Int) : Database :=
  committedState db
    (writeStats db 300 [] [makePlayerRating 2 currentRating maxRating])

theorem writeStats_afterPoll {db : Database}
    (hplayer : (db.players.find? 2).isSome) (currentRating maxRating : Int) :
    writeStats db 300 [] [makePlayerRating 2 currentRating maxRating] =
      .ok (afterPoll db currentRating maxRating) := by
  have hplayers : ∀ row ∈ [makePlayerRating 2 currentRating maxRating],
      (db.players.find? row.profileId).isSome := by
    intro row hrow
    cases List.mem_singleton.mp hrow
    exact hplayer
  obtain ⟨db', hwrite⟩ := writeStats_isOk 300 hplayers
  rw [afterPoll, hwrite]
  rfl

theorem writeAfter_polled {db : Database}
    (hplayer : (db.players.find? 2).isSome) {currentRating maxRating : Int}
    (hmono : ∀ stored ∈ db.playerRatings.find? (2, 3),
      stored.maxRating ≤ maxRating) :
    WriteAfter 0 db (polled currentRating maxRating)
      (afterPoll db currentRating maxRating) := by
  refine .stats (by decide) ?_ (writeStats_afterPoll hplayer _ _)
  intro rating hrating stored hstored
  cases List.mem_singleton.mp hrating
  exact hmono stored hstored

theorem apart_consistent : apart.Consistent := by
  constructor <;> decide

theorem level_consistent : level.Consistent := by
  constructor <;> decide

theorem apart_unplayed : ∀ row ∈ rosterRows apart cup,
    (historySeries apart cup row).points = [] ∧
      (historySeries apart cup row).snapPoints = [] := by
  decide

theorem apart_peaks (time : Instant) : ∀ left ∈ rosterRows apart cup,
    ∀ right ∈ rosterRows apart cup,
      peakBy apart cup time left = peakBy apart cup time right →
        left.entry.id = right.entry.id := by
  have hpeak : ∀ row ∈ rosterRows apart cup, peakBy apart cup time row =
      ((historySeries apart cup row).baseline
        (row.rating.map (·.maxRating))).toList.max?.map
          (cut (row.rating.map (·.maxRating))) := by
    intro row hrow
    obtain ⟨hpoints, hsnaps⟩ := apart_unplayed row hrow
    simp [peakBy, chartedBy, hpoints, hsnaps, upTo]
  intro left hleft right hright heq
  rw [hpeak left hleft, hpeak right hright] at heq
  revert heq
  revert right
  revert left
  decide

theorem apart_undisturbed :
    Undisturbed cup 0 apart (afterPoll apart 1510 1570) := by
  have hcarried : ∀ row ∈ rosterRows apart cup,
      (historySeries (afterPoll apart 1510 1570) cup
        (row.later (afterPoll apart 1510 1570) cup)).snapBase =
          (historySeries apart cup row).snapBase := by decide
  have hentered : ∀ row ∈ rosterRows apart cup,
      (historySeries (afterPoll apart 1510 1570) cup
        (row.later (afterPoll apart 1510 1570) cup)).entryOld =
          (historySeries apart cup row).entryOld := by decide
  have hobserved : ∀ row ∈ rosterRows apart cup,
      (historySeries apart cup row).snapBase ≠ none := by decide
  have huncut : ∀ row ∈ rosterRows apart cup, ∀ rating ∈ row.rating,
      ∀ value ∈ chartedBy apart cup 0 row, value ≤ rating.maxRating := by
    decide
  refine ⟨by decide, by decide, fun row hrow rating hrating => ?_, ?_⟩
  · exact ⟨hcarried row hrow, fun _ _ => Or.inl (hentered row hrow),
      fun hnone => absurd hnone (hobserved row hrow),
      Or.inr (huncut row hrow rating hrating)⟩
  · intro time _ left hleft right hright htie
    have hsame : left = right := List.inj_on_of_nodup_map
      (rosterRows_nodup apart cup) hleft hright
      (apart_peaks time left hleft right hright htie)
    rw [hsame]
    exact iff_of_true (le_refl _) (le_refl _)

end HistoryAppendOnlyWitness

open HistoryAppendOnlyWitness in
/-- Peaks that are apart stay in their past buckets when one is raised. -/
theorem history_append_only_apart :
    UniqueNames apart.tournamentPlayers ∧
      (getStandingsHistory apart cup).buckets.getLast? = some 0 ∧
        SameBuckets (getStandingsHistory apart cup)
          (getStandingsHistory (afterPoll apart 1510 1570) cup) := by
  have hwrite : WriteAfter 0 apart (polled 1510 1570)
      (afterPoll apart 1510 1570) :=
    writeAfter_polled (by decide) (by decide)
  have hkept : Undisturbing cup 0 apart (polled 1510 1570) := by
    intro db' hwrite'
    cases hwrite' with
    | stats _ _ hdb' =>
        cases (writeStats_afterPoll (by decide) _ _).symm.trans hdb'
        exact apart_undisturbed
  exact ⟨apart_consistent.name_unique, by decide,
    history_append_only apart_consistent.name_unique rfl (by decide)
      (Run.single ⟨hkept, hwrite⟩)⟩

open HistoryAppendOnlyWitness in
/-- A tie on the peak is broken in every past bucket by today's current
ratings, so a later observation reorders them. -/
theorem later_rating_reorders_past :
    ¬ ∀ (start db : Database) (t : Tournament) (last : Instant)
      (writes : List PollerWrite), start.Consistent →
        t.rankBy = .peakRating → SnapshotsFollow start t →
          (getStandingsHistory start t).buckets.getLast? = some last →
            Run (WriteAfter last) start writes db →
              SameBuckets (getStandingsHistory start t)
                (getStandingsHistory db t) := by
  intro hclaim
  have hfollow : SnapshotsFollow level cup := by
    unfold SnapshotsFollow
    decide
  have hsame := hclaim level (afterPoll level 1510 1600) cup 0 _
    level_consistent rfl hfollow (by decide)
    (Run.single (writeAfter_polled (by decide) (by decide)))
  let leader : PlayerStandingHistory :=
    ⟨1, some 1, "p1", [⟨1, some 1600, none⟩]⟩
  obtain ⟨player, hplayer, hid, point, hpoint, hpoint'⟩ :=
    hsame.players 0 0 0 (by decide) (by decide) leader (by decide)
  have hmoved : ∀ player ∈ (getStandingsHistory (afterPoll level 1510 1600)
      cup).players, player.tournamentPlayerId = 1 →
        player.points[0]? = some ⟨2, some 1600, none⟩ := by decide
  rw [hmoved player hplayer hid] at hpoint'
  cases hpoint'
  cases hpoint

end LiveStandings
