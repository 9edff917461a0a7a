/-
Twitch detection and the order of what Twitch returns.  A roster row may list
several channels, and its snapshot carries one title and one category: those
of the live channel that comes last.
-/
import LiveStandings.LiveStreams

namespace LiveStandings

open KeyedTable InvertedIndex Fallible

/-- A key lists a URL of a Twitch channel. -/
def ListsTwitch (library : TextLibrary)
    (streamUrls : OrderedDict Int (List String)) (id : Int)
    (login : String) : Prop :=
  login ≠ "" ∧ ∃ urls, get? streamUrls id = some urls ∧
    ∃ url ∈ urls, parseTwitchLogin library url = some login

/-- Helix answers each batch with the streams of its logins, in some order. -/
def Answers (library : TextLibrary) (streams : List HelixStream)
    (helix : Helix) : Prop :=
  ∀ batch, ∃ response, helix batch = .ok response ∧
    response.Perm (streams.filter fun row => row.login library ∈ batch)

/-- A way to list a set. -/
def Listing {A : Type} (order : List A → List A) : Prop :=
  ∀ items, (order items).Perm items

/-- What Twitch reports of a roster and its hosts does not depend on the order
in which it is asked and answers: the tick does the same, and done again it
does nothing. -/
structure OrderFree (library : TextLibrary)
    (streamUrls hostUrls : OrderedDict Int (List String))
    (streams : List HelixStream) : Prop where
  same : ∀ helix helix' order order' now db,
    Answers library streams helix → Answers library streams helix' →
      Listing order → Listing order' →
        tickTwitchLive library helix order streamUrls hostUrls now db =
          tickTwitchLive library helix' order' streamUrls hostUrls now db
  steady : ∀ helix helix' order order' now now' db changed db',
    Answers library streams helix → Answers library streams helix' →
      Listing order → Listing order' →
        tickTwitchLive library helix order streamUrls hostUrls now db =
          .ok (changed, db') →
        tickTwitchLive library helix' order' streamUrls hostUrls now' db' =
          .ok (false, db')

/-- A live channel that the key lists carries this title and category. -/
def LiveOn (library : TextLibrary) (urls : OrderedDict Int (List String))
    (streams : List HelixStream) (id : Int) (value : LiveStreamMeta) : Prop :=
  ∃ row ∈ streams, row.live = true ∧
    ListsTwitch library urls id (row.login library) ∧ value = row.meta

/-- All that is live of one roster row has one title and one category. -/
def OneBroadcast (library : TextLibrary)
    (streamUrls : OrderedDict Int (List String))
    (streams : List HelixStream) : Prop :=
  ∀ id left right, LiveOn library streamUrls streams id left →
    LiveOn library streamUrls streams id right → left = right

section Ticks

variable {library : TextLibrary}
  {streamUrls hostUrls : OrderedDict Int (List String)}
  {streams : List HelixStream}

theorem mem_twitchLoginsByKey {id : Int} {login : String} :
    id ∈ keysOf (twitchLoginsByKey library streamUrls) login ↔
      ListsTwitch library streamUrls id login := by
  simp only [twitchLoginsByKey, mem_keysOf_invert, ListsTwitch,
    Option.filter_eq_some_iff, ne_eq, decide_not, Bool.not_eq_true',
    decide_eq_false_iff_not, get?_eq_some_iff]
  constructor
  · rintro ⟨urls, hurls, url, hurl, hlogin, hne⟩
    exact ⟨hne, urls, hurls, url, hurl, hlogin⟩
  · rintro ⟨hne, urls, hurls, url, hurl, hlogin⟩
    exact ⟨urls, hurls, url, hurl, hlogin, hne⟩

/-- The logins a tick asks for. -/
abbrev askedLogins (library : TextLibrary)
    (streamUrls hostUrls : OrderedDict Int (List String)) : List String :=
  allRefs (twitchLoginsByKey library streamUrls)
    (twitchLoginsByKey library hostUrls)

theorem mem_askedLogins {id : Int} {login : String}
    (hlists : ListsTwitch library streamUrls id login ∨
      ListsTwitch library hostUrls id login) :
    login ∈ askedLogins library streamUrls hostUrls := by
  refine List.mem_dedup.mpr (List.mem_append.mpr ?_)
  exact hlists.imp
    (fun h => mem_refs_of_mem_keysOf (mem_twitchLoginsByKey.mpr h))
    (fun h => mem_refs_of_mem_keysOf (mem_twitchLoginsByKey.mpr h))

/-- The live pairs of all batches, in the order of the batches. -/
def answeredPairs (library : TextLibrary)
    (responses : List String → List HelixStream) (logins : List String) :
    List (String × LiveStreamMeta) :=
  (batches twitchStreamsBatch logins).flatMap fun batch =>
    livePairs library (responses batch)

theorem getLiveStreams_eq {helix : Helix}
    {responses : List String → List HelixStream}
    (hanswers : ∀ batch, helix batch = .ok (responses batch))
    (logins : List String) :
    getLiveStreams library helix logins =
      .ok (ofPairs (answeredPairs library responses logins)) := by
  have hloop : ∀ (parts : List (List String))
      (live : OrderedDict String LiveStreamMeta),
      parts.foldlM (fun live batch => do
        .ok (live.overwriteAll (← liveBatch library helix batch).rows)) live =
        (.ok (live.overwriteAll (parts.flatMap fun batch =>
          livePairs library (responses batch))) :
          Except CycleError (OrderedDict String LiveStreamMeta)) := by
    intro parts
    induction parts with
    | nil => intro live; rfl
    | cons batch parts ih =>
        intro live
        have hbatch : liveBatch library helix batch =
            .ok (ofPairs (livePairs library (responses batch))) := by
          rw [liveBatch, hanswers]
          rfl
        rw [List.foldlM_cons, hbatch, List.flatMap_cons,
          Table.overwriteAll_append]
        have hmerge := live.overwriteAll_rows_overwriteAll
          (livePairs library (responses batch))
        rw [← hmerge]
        exact ih _
  exact hloop _ _

theorem tickTwitchLive_eq {helix : Helix} {order : List String → List String}
    {responses : List String → List HelixStream}
    (hanswers : ∀ batch, helix batch = .ok (responses batch))
    (horder : Listing order) (now : Instant) (db : Database) :
    tickTwitchLive library helix order streamUrls hostUrls now db =
      applyLive platformTwitch (twitchLoginsByKey library streamUrls)
        (twitchLoginsByKey library hostUrls)
        (ofPairs (answeredPairs library responses
          (order (askedLogins library streamUrls hostUrls)))) now db := by
  rw [tickTwitchLive]
  simp only
  split
  · next hempty =>
      have hnone : order (askedLogins library streamUrls hostUrls) = [] := by
        have hperm := horder (askedLogins library streamUrls hostUrls)
        have hnil : askedLogins library streamUrls hostUrls = [] :=
          List.isEmpty_iff.mp hempty
        rw [hnil] at hperm ⊢
        exact hperm.eq_nil
      rw [hnone]
      rfl
  · rw [getLiveStreams_eq hanswers]
    rfl

/-- What is answered about the logins that are asked for. -/
theorem mem_answeredPairs {responses : List String → List HelixStream}
    (hresponses : ∀ batch, (responses batch).Perm
      (streams.filter fun row => row.login library ∈ batch))
    {logins : List String} {pair : String × LiveStreamMeta} :
    pair ∈ answeredPairs library responses logins ↔
      ∃ row ∈ streams, row.live = true ∧ row.login library ∈ logins ∧
        pair = (row.login library, row.meta) := by
  have hflat := flatten_batches twitchStreamsBatch (by decide) logins
  simp only [answeredPairs, livePairs, List.mem_flatMap, List.mem_map,
    List.mem_filter, (hresponses _).mem_iff, decide_eq_true_eq]
  constructor
  · rintro ⟨batch, hbatch, row, ⟨⟨hrow, hlogin⟩, hlive⟩, rfl⟩
    refine ⟨row, hrow, hlive, ?_, rfl⟩
    rw [← hflat]
    exact List.mem_flatten.mpr ⟨batch, hbatch, hlogin⟩
  · rintro ⟨row, hrow, hlive, hlogin, rfl⟩
    rw [← hflat] at hlogin
    obtain ⟨batch, hbatch, hmem⟩ := List.mem_flatten.mp hlogin
    exact ⟨batch, hbatch, row, ⟨⟨hrow, hmem⟩, hlive⟩, rfl⟩

/-- Answered pairs reach the keys that list them. -/
structure Observed (library : TextLibrary)
    (streamUrls hostUrls : OrderedDict Int (List String))
    (streams : List HelixStream) (pairs : List (String × LiveStreamMeta)) :
    Prop where
  rows : ∀ id value, Reaches (twitchLoginsByKey library streamUrls) pairs id
    value ↔ LiveOn library streamUrls streams id value
  hosts : ∀ id value, Reaches (twitchLoginsByKey library hostUrls) pairs id
    value ↔ LiveOn library hostUrls streams id value

theorem observed_of_mem {pairs : List (String × LiveStreamMeta)}
    (hpairs : ∀ pair, pair ∈ pairs ↔ ∃ row ∈ streams, row.live = true ∧
      row.login library ∈ askedLogins library streamUrls hostUrls ∧
        pair = (row.login library, row.meta)) :
    Observed library streamUrls hostUrls streams pairs := by
  have hreaches : ∀ urls : OrderedDict Int (List String),
      (∀ id login, ListsTwitch library urls id login →
        login ∈ askedLogins library streamUrls hostUrls) → ∀ id value,
      Reaches (twitchLoginsByKey library urls) pairs id value ↔
        LiveOn library urls streams id value := by
    intro urls hasked id value
    constructor
    · rintro ⟨login, hpair, hkey⟩
      obtain ⟨row, hrow, hlive, _, heq⟩ := (hpairs _).mp hpair
      cases heq
      exact ⟨row, hrow, hlive, mem_twitchLoginsByKey.mp hkey, rfl⟩
    · rintro ⟨row, hrow, hlive, hlists, rfl⟩
      exact ⟨row.login library,
        (hpairs _).mpr ⟨row, hrow, hlive, hasked _ _ hlists, rfl⟩,
        mem_twitchLoginsByKey.mpr hlists⟩
  exact ⟨hreaches streamUrls fun _ _ h => mem_askedLogins (Or.inl h),
    hreaches hostUrls fun _ _ h => mem_askedLogins (Or.inr h)⟩

/-- However the logins are listed and answered, what is answered is
observed. -/
theorem observed_answeredPairs {responses : List String → List HelixStream}
    (hresponses : ∀ batch, (responses batch).Perm
      (streams.filter fun row => row.login library ∈ batch))
    {order : List String → List String} (horder : Listing order) :
    Observed library streamUrls hostUrls streams
      (answeredPairs library responses
        (order (askedLogins library streamUrls hostUrls))) := by
  refine observed_of_mem fun pair => ?_
  rw [mem_answeredPairs hresponses]
  simp only [(horder _).mem_iff]

/-- A tick applies what it observes. -/
theorem tickTwitchLive_observes {helix : Helix}
    {order : List String → List String}
    (hanswers : Answers library streams helix) (horder : Listing order) :
    ∃ pairs, Observed library streamUrls hostUrls streams pairs ∧
      ∀ now db, tickTwitchLive library helix order streamUrls hostUrls now db =
        applyLive platformTwitch (twitchLoginsByKey library streamUrls)
          (twitchLoginsByKey library hostUrls) (ofPairs pairs) now db := by
  choose responses hok hperm using hanswers
  exact ⟨_, observed_answeredPairs hperm horder, tickTwitchLive_eq hok horder⟩

section Observed

variable {pairs pairs' : List (String × LiveStreamMeta)}

theorem Observed.get?_spread (hone : OneBroadcast library streamUrls streams)
    (hobserved : Observed library streamUrls hostUrls streams pairs) {id : Int}
    {value : LiveStreamMeta} :
    get? (spread (twitchLoginsByKey library streamUrls) (ofPairs pairs).rows)
        id = some value ↔ LiveOn library streamUrls streams id value := by
  rw [get?_spread_ofPairs_of_agree, hobserved.rows]
  intro left right hleft hright
  exact hone id left right ((hobserved.rows id left).mp hleft)
    ((hobserved.rows id right).mp hright)

theorem Observed.mem_reached
    (hobserved : Observed library streamUrls hostUrls streams pairs)
    {id : Int} :
    id ∈ reached (twitchLoginsByKey library hostUrls) (ofPairs pairs).rows ↔
      ∃ value, LiveOn library hostUrls streams id value := by
  rw [mem_reached_ofPairs]
  simp only [hobserved.hosts]

theorem LiveOn.listed {urls : OrderedDict Int (List String)} {id : Int}
    {value : LiveStreamMeta} (hlive : LiveOn library urls streams id value) :
    (get? urls id).isSome = true := by
  obtain ⟨row, _, _, ⟨_, listed, hlisted, _⟩, _⟩ := hlive
  rw [hlisted]
  rfl

end Observed

theorem OneBroadcast.orderFree (hone : OneBroadcast library streamUrls streams)
    (hostUrls : OrderedDict Int (List String)) :
    OrderFree library streamUrls hostUrls streams := by
  have hsets : ∀ {pairs pairs' : List (String × LiveStreamMeta)},
      Observed library streamUrls hostUrls streams pairs →
      Observed library streamUrls hostUrls streams pairs' →
      (∀ id, get? (spread (twitchLoginsByKey library streamUrls)
          (ofPairs pairs).rows) id =
        get? (spread (twitchLoginsByKey library streamUrls)
          (ofPairs pairs').rows) id) ∧
      ∀ id, id ∈ reached (twitchLoginsByKey library hostUrls)
          (ofPairs pairs).rows ↔
        id ∈ reached (twitchLoginsByKey library hostUrls)
          (ofPairs pairs').rows := by
    intro pairs pairs' hobserved hobserved'
    refine ⟨fun id => Option.ext fun value => ?_, fun id => ?_⟩
    · rw [hobserved.get?_spread hone, hobserved'.get?_spread hone]
    · rw [hobserved.mem_reached, hobserved'.mem_reached]
  constructor
  · intro helix helix' order order' now db hanswers hanswers' horder horder'
    obtain ⟨pairs, hobserved, htick⟩ :=
      tickTwitchLive_observes hanswers horder
    obtain ⟨pairs', hobserved', htick'⟩ :=
      tickTwitchLive_observes hanswers' horder'
    obtain ⟨hrows, hhosts⟩ := hsets hobserved hobserved'
    rw [htick, htick', applyLive, applyLive, applyLiveSets_congr hrows hhosts]
  · intro helix helix' order order' now now' db changed db' hanswers hanswers'
      horder horder' hok
    obtain ⟨pairs, hobserved, htick⟩ :=
      tickTwitchLive_observes hanswers horder
    obtain ⟨pairs', hobserved', htick'⟩ :=
      tickTwitchLive_observes hanswers' horder'
    obtain ⟨hrows, hhosts⟩ := hsets hobserved hobserved'
    rw [htick, applyLive, mapError_eq_ok] at hok
    have hsnapshot := (snapshot_of_applyLiveSets hok).congr hrows hhosts
    rw [htick', applyLive, mapError_eq_ok,
      applyLiveSets_of_snapshot now' hsnapshot]

/-- The streams of a batch, those of one row's channel at the end and that row
last of all. -/
def respondLast (library : TextLibrary) (streams : List HelixStream)
    (last : HelixStream) (batch : List String) : List HelixStream :=
  (streams.filter fun row =>
      row.login library ∈ batch && row.login library ≠ last.login library) ++
    if last.login library ∈ batch then
      ((streams.erase last).filter fun row =>
        row.login library = last.login library) ++ [last]
    else []

theorem respondLast_perm {last : HelixStream} (hlast : last ∈ streams)
    (batch : List String) :
    (respondLast library streams last batch).Perm
      (streams.filter fun row => row.login library ∈ batch) := by
  have hothers : streams.filter (fun row => row.login library ∈ batch &&
      row.login library ≠ last.login library) =
      (streams.filter fun row => row.login library ∈ batch).filter
        fun row => !decide (row.login library = last.login library) := by
    rw [List.filter_filter]
    refine List.filter_congr fun row _ => ?_
    rw [Bool.and_comm]
    simp
  have hsames : (if last.login library ∈ batch then
        ((streams.erase last).filter fun row =>
          row.login library = last.login library) ++ [last]
      else []).Perm
      ((streams.filter fun row => row.login library ∈ batch).filter
        fun row => row.login library = last.login library) := by
    rw [List.filter_filter]
    split
    · next hmem =>
        have hall : streams.filter (fun row =>
            decide (row.login library = last.login library) &&
              decide (row.login library ∈ batch)) =
            streams.filter fun row =>
              decide (row.login library = last.login library) :=
          List.filter_congr fun row _ => by
            by_cases hsame : row.login library = last.login library <;>
              simp [hsame, hmem]
        have hfront := (List.perm_cons_erase hlast).filter fun row =>
          decide (row.login library = last.login library)
        rw [List.filter_cons_of_pos (by simp)] at hfront
        rw [hall]
        exact (List.perm_append_singleton _ _).trans hfront.symm
    · next hmem =>
        refine List.Perm.of_eq (List.filter_eq_nil_iff.mpr fun row _ => ?_).symm
        simp only [Bool.and_eq_true, decide_eq_true_eq, not_and]
        exact fun hsame hbatch => hmem (hsame ▸ hbatch)
  rw [respondLast, hothers]
  exact (hsames.append_left _).trans
    (List.perm_append_comm.trans (List.filter_append_perm _ _))

/-- A set, one of its items listed last. -/
def listLast (last : String) (items : List String) : List String :=
  if last ∈ items then items.erase last ++ [last] else items

theorem listing_listLast (last : String) : Listing (listLast last) := by
  intro items
  rw [listLast]
  split
  · next hmem =>
      exact (List.perm_append_singleton _ _).trans
        (List.perm_cons_erase hmem).symm
  · rfl

theorem login_of_mem_livePairs {rows : List HelixStream}
    {pair : String × LiveStreamMeta} (hpair : pair ∈ livePairs library rows) :
    ∃ row ∈ rows, pair.1 = row.login library := by
  obtain ⟨row, hrow, rfl⟩ := List.mem_map.mp hpair
  exact ⟨row, List.mem_of_mem_filter hrow, rfl⟩

variable (streams) in
/-- Asked and answered like that, the row is observed last. -/
theorem answeredPairs_last {last : HelixStream} (hlive : last.live = true)
    {logins : List String} (hnodup : logins.Nodup)
    (hmem : last.login library ∈ logins) :
    ∃ others sames,
      answeredPairs library (respondLast library streams last)
          (listLast (last.login library) logins) =
        others ++ (sames ++ [(last.login library, last.meta)]) ∧
      (∀ pair ∈ others, pair.1 ≠ last.login library) ∧
        ∀ pair ∈ sames, pair.1 = last.login library := by
  have hflat := flatten_batches twitchStreamsBatch (by decide)
    (listLast (last.login library) logins)
  obtain ⟨before, batch, after, hbatches, hbatch, hbefore, hafter⟩ :=
    exists_part_of_flatten (hflat.trans (if_pos hmem)) hnodup.not_mem_erase
  refine ⟨(before.flatMap fun batch =>
      livePairs library (respondLast library streams last batch)) ++
      livePairs library (streams.filter fun row =>
        row.login library ∈ batch && row.login library ≠ last.login library),
    livePairs library ((streams.erase last).filter fun row =>
      row.login library = last.login library), ?_, ?_, ?_⟩
  · have hrest : (after.flatMap fun batch =>
        livePairs library (respondLast library streams last batch)) = [] := by
      refine List.flatMap_eq_nil_iff.mpr fun other hother => ?_
      rw [hafter other hother]
      simp [respondLast, livePairs]
    have hlast : livePairs library (respondLast library streams last batch) =
        livePairs library (streams.filter fun row =>
          row.login library ∈ batch &&
            row.login library ≠ last.login library) ++
        (livePairs library ((streams.erase last).filter fun row =>
          row.login library = last.login library) ++
          [(last.login library, last.meta)]) := by
      simp [respondLast, hbatch, livePairs, hlive]
    rw [answeredPairs, hbatches, List.flatMap_append, List.flatMap_cons, hrest,
      List.append_nil, hlast, List.append_assoc]
  · intro pair hpair
    rcases List.mem_append.mp hpair with hearlier | hbatch
    · obtain ⟨other, hother, hpair⟩ := List.mem_flatMap.mp hearlier
      rw [respondLast, if_neg (hbefore other hother), List.append_nil] at hpair
      obtain ⟨row, hrow, hlogin⟩ := login_of_mem_livePairs hpair
      simp only [List.mem_filter, Bool.and_eq_true, decide_eq_true_eq] at hrow
      exact hlogin ▸ hrow.2.2
    · obtain ⟨row, hrow, hlogin⟩ := login_of_mem_livePairs hbatch
      simp only [List.mem_filter, Bool.and_eq_true, decide_eq_true_eq] at hrow
      exact hlogin ▸ hrow.2.2
  · intro pair hpair
    obtain ⟨row, hrow, hlogin⟩ := login_of_mem_livePairs hpair
    exact hlogin.trans (by simpa using (List.mem_filter.mp hrow).2)

/-- A database in which every key exists. -/
def everyKey (streamUrls hostUrls : OrderedDict Int (List String)) :
    Database :=
  { Database.empty with
    tournaments := Table.empty.insertAll (hostUrls.rows.map fun item =>
      { id := item.1, slug := "", name := "", leaderboardId := 0,
        rankBy := .peakRating, startDate := none, endDate := none,
        prizePoolCents := none, hostStreamUrls := item.2, presentation := [],
        createdAt := 0 })
    tournamentPlayers := Table.empty.insertAll (streamUrls.rows.map fun item =>
      { id := item.1, tournamentId := 0, profileId := none, name := "",
        presentation := [] }) }

theorem existing_everyKey {liveRows : OrderedDict Int LiveStreamMeta}
    {liveHosts : List Int}
    (hrows : ∀ id value, get? liveRows id = some value →
      (get? streamUrls id).isSome = true)
    (hhosts : ∀ id ∈ liveHosts, (get? hostUrls id).isSome = true) :
    Existing (everyKey streamUrls hostUrls) liveRows liveHosts := by
  constructor
  · intro id value hget
    have hlisted := hrows id value hget
    rw [get?, Option.isSome_map, ← Table.mem_keys_iff] at hlisted
    rw [← Table.mem_keys_iff, everyKey, Table.mem_keys_insertAll, List.map_map]
    exact Or.inr hlisted
  · intro id hid
    have hlisted := hhosts id hid
    rw [get?, Option.isSome_map, ← Table.mem_keys_iff] at hlisted
    rw [← Table.mem_keys_iff, everyKey, Table.mem_keys_insertAll, List.map_map]
    exact Or.inr hlisted

/-- Where every key exists, what is observed is applied. -/
theorem Observed.applies {pairs : List (String × LiveStreamMeta)}
    (hobserved : Observed library streamUrls hostUrls streams pairs) :
    ∃ changed db', applyLive platformTwitch
        (twitchLoginsByKey library streamUrls)
        (twitchLoginsByKey library hostUrls) (ofPairs pairs) 0
        (everyKey streamUrls hostUrls) = .ok (changed, db') ∧
      Snapshot db' platformTwitch
        (spread (twitchLoginsByKey library streamUrls) (ofPairs pairs).rows)
        (reached (twitchLoginsByKey library hostUrls) (ofPairs pairs).rows) := by
  have hexisting : Existing (everyKey streamUrls hostUrls)
      (spread (twitchLoginsByKey library streamUrls) (ofPairs pairs).rows)
      (reached (twitchLoginsByKey library hostUrls) (ofPairs pairs).rows) := by
    refine existing_everyKey (fun id value hget => ?_) fun id hid => ?_
    · exact ((hobserved.rows id value).mp
        (reaches_of_get?_spread hget).of_ofPairs).listed
    · obtain ⟨value, hlive⟩ := hobserved.mem_reached.mp hid
      exact hlive.listed
  obtain ⟨changed, db', happly, hsnapshot⟩ := applyLiveSets_ok 0 hexisting
  exact ⟨changed, db', mapError_eq_ok.mpr happly, hsnapshot⟩

/-- Each live channel of a row may be the one whose title is stored. -/
theorem exists_tick_storing {id : Int} {value : LiveStreamMeta}
    (hlive : LiveOn library streamUrls streams id value)
    (hostUrls : OrderedDict Int (List String)) :
    ∃ helix order, Answers library streams helix ∧ Listing order ∧
      ∃ changed db', tickTwitchLive library helix order streamUrls hostUrls 0
          (everyKey streamUrls hostUrls) = .ok (changed, db') ∧
        ⟨id, platformTwitch, value.title, value.category⟩ ∈
          db'.liveStreams.rows := by
  obtain ⟨row, hrow, hlive, hlists, rfl⟩ := hlive
  have hasked : row.login library ∈ askedLogins library streamUrls hostUrls :=
    mem_askedLogins (Or.inl hlists)
  have hnodup : (askedLogins library streamUrls hostUrls).Nodup :=
    List.nodup_dedup _
  obtain ⟨others, sames, hpairs, hothers, hsames⟩ :=
    answeredPairs_last streams hlive hnodup hasked
  have hanswered : ∀ batch : List String,
      (fun batch => .ok (respondLast library streams row batch) : Helix) batch =
        .ok (respondLast library streams row batch) := fun _ => rfl
  have horder := listing_listLast (row.login library)
  have hobserved : Observed library streamUrls hostUrls streams _ :=
    observed_answeredPairs (respondLast_perm hrow) horder
  obtain ⟨changed, db', happly, hsnapshot⟩ := hobserved.applies
  refine ⟨_, _, fun batch => ⟨_, rfl, respondLast_perm hrow batch⟩, horder,
    changed, db', ?_, (hsnapshot.rows _ rfl).mpr ?_⟩
  · rw [tickTwitchLive_eq hanswered horder]
    exact happly
  · rw [hpairs]
    exact get?_spread_ofPairs_concat _ hothers hsames
      (mem_twitchLoginsByKey.mpr hlists)

theorem OrderFree.oneBroadcast
    (hfree : OrderFree library streamUrls hostUrls streams) :
    OneBroadcast library streamUrls streams := by
  intro id left right hleft hright
  obtain ⟨helix, order, hanswers, horder, changed, db, htick, hstored⟩ :=
    exists_tick_storing hleft hostUrls
  obtain ⟨helix', order', hanswers', horder', changed', db', htick',
    hstored'⟩ := exists_tick_storing hright hostUrls
  have hsame := hfree.same helix helix' order order' 0
    (everyKey streamUrls hostUrls) hanswers hanswers' horder horder'
  rw [htick, htick'] at hsame
  cases hsame
  have hrow := db.liveStreams.eq_of_key_eq hstored hstored' rfl
  cases left
  cases right
  cases hrow
  rfl

end Ticks

/-- Twitch detection is independent of the order in which Twitch is asked and
answers exactly if all live channels of a roster row carry one title and one
category. -/
theorem twitch_order_free_iff (library : TextLibrary)
    (streamUrls hostUrls : OrderedDict Int (List String))
    (streams : List HelixStream) :
    OrderFree library streamUrls hostUrls streams ↔
      OneBroadcast library streamUrls streams :=
  ⟨fun hfree => hfree.oneBroadcast, fun hone => hone.orderFree hostUrls⟩

namespace ChannelOrderWitness

/-- `urlparse` of an `https` URL and `lower` of ASCII. -/
def ascii : TextLibrary where
  urlparse url :=
    let rest := url.toList.drop "https://".length
    some (String.ofList (rest.takeWhile (· ≠ '/')),
      String.ofList (rest.dropWhile (· ≠ '/')))
  lower text := String.ofList (text.toList.map Char.toLower)

/-- One roster row with two channels. -/
def twoChannels : OrderedDict Int (List String) :=
  ofPairs [(1, ["https://www.twitch.tv/Alice", "https://www.twitch.tv/AliceTV"])]

/-- Both are live, under different titles. -/
def bothLive : List HelixStream :=
  [⟨"alice", some "live", some "ladder", none⟩,
    ⟨"alicetv", some "live", some "co-stream", none⟩]

theorem liveOn_ladder :
    LiveOn ascii twoChannels bothLive 1 ⟨some "ladder", none⟩ :=
  ⟨⟨"alice", some "live", some "ladder", none⟩, by decide, by decide,
    ⟨by decide, _, rfl, "https://www.twitch.tv/Alice", by decide, by decide⟩,
    by decide⟩

theorem liveOn_coStream :
    LiveOn ascii twoChannels bothLive 1 ⟨some "co-stream", none⟩ :=
  ⟨⟨"alicetv", some "live", some "co-stream", none⟩, by decide, by decide,
    ⟨by decide, _, rfl, "https://www.twitch.tv/AliceTV", by decide, by decide⟩,
    by decide⟩

end ChannelOrderWitness

open ChannelOrderWitness in
/-- Of two live channels of one row the stored title is the last one's. -/
theorem two_channels_not_order_free :
    ¬ ∀ (library : TextLibrary)
      (streamUrls hostUrls : OrderedDict Int (List String))
      (streams : List HelixStream),
        OrderFree library streamUrls hostUrls streams := by
  intro hclaim
  have hsame := (hclaim ascii twoChannels Table.empty bothLive).oneBroadcast 1 _
    _ liveOn_ladder liveOn_coStream
  exact absurd hsame (by decide)

end LiveStandings
