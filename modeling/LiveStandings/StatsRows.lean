/-
What a parsed `GetPersonalStat` payload offers the tables.  Two flat lists are
joined through the ids of the statgroups, and a field that is absent, null or
zero is read by one idiom here and another there.
-/
import LiveStandings.Pollers

namespace LiveStandings

open Fallible KeyedTable PyJson

/-- The entries of a list of the payload. -/
def entriesOf (payload : Json) (field : String) : List Json :=
  ((payload.getD field (.arr [])) >>= Json.iterate).toOption.getD []

/-- `value.get(field)` as a dict key. -/
def keyOf (value : Json) (field : String) : Option DictKey :=
  (value.get field >>= Json.dictKey).toOption

/-- The first member of a statgroup that has any. -/
def firstMember (group : Json) : Option Json :=
  match group.get "members" with
  | .ok (.arr (member :: _)) => some member
  | _ => none

/-- The id of a statgroup that is not empty, and its member's profile. -/
def statgroupProfile (group : Json) : Option (DictKey × Json) :=
  (firstMember group).bind fun member =>
    (keyOf group "id").bind fun key =>
      (member.item "profile_id").toOption.map fun profileId => (key, profileId)

/-- The profile of the member of the statgroup a row names: the last one with
that id, where ids repeat.  `none` when it is unknown or empty. -/
def namedProfile (groups : List Json) (row : Json) : Option Json :=
  (keyOf row "statgroup_id").bind fun key =>
    ((groups.filterMap statgroupProfile).reverse.lookup key).filter
      fun profileId => !profileId.isNull

/-- A field that is absent, null or an integer. -/
def OptionalInt (row : Json) (field : String) : Prop :=
  row.get field = .ok .null ∨ ∃ n, row.get field = .ok (.int n)

/-- The fields of a `leaderboardStats` row that may be missing. -/
def optionalFields : List String :=
  ["rating", "highestrating", "wins", "losses", "streak", "drops", "rank",
    "ranktotal", "regionrank", "regionranktotal", "lastmatchdate"]

/-- The payloads the parser is written for. -/
def OptionalInts (payload : Json) : Prop :=
  ∀ row ∈ entriesOf payload "leaderboardStats", ∀ field ∈ optionalFields,
    OptionalInt row field

/-- Some row that counts has the field, and has it null. -/
def NullCounted (payload : Json) (field : String) : Prop :=
  ∃ row ∈ entriesOf payload "leaderboardStats",
    (namedProfile (entriesOf payload "statGroups") row).isSome ∧
      row.getD field (.int 0) = .ok .null

/-- The rating and the peak of a row are integers, the peak no lower. -/
def RatingDict.Peaked (row : RatingDict) : Prop :=
  ∃ current peak, row.currentRating = .int current ∧
    row.maxRating = .int peak ∧ current ≤ peak

/-- The counters of a row are integers. -/
def RatingDict.Counted (row : RatingDict) : Prop :=
  ∀ value ∈ [row.wins, row.losses, row.streak, row.drops],
    ∃ n, value = .int n

/-- What the rows of a payload promise the tables they are written to. -/
structure Storable (payload : Json) (players : List PlayerDict)
    (ratings : List RatingDict) : Prop where
  peaked : ∀ row ∈ ratings, row.Peaked
  listed : ∀ row ∈ ratings, ∃ player ∈ players, player.profileId = row.profileId
  /-- One row for each entry that names a member's statgroup, in order. -/
  named : ratings.map (·.profileId) =
    (entriesOf payload "leaderboardStats").filterMap
      (namedProfile (entriesOf payload "statGroups"))
  /-- Bound and written in order, no row misses its player. -/
  stored : ∀ now db bound, boundStats now payload = .ok bound →
    ∃ db', writeStats db now bound.1 bound.2 = .ok db'

/-- What is read of a row that counts. -/
structure ReadRow (row : Json) (rating : RatingDict) : Prop where
  currentRating : row.getD "rating" (.int 0) = .ok rating.currentRating
  maxRating : ∃ highest reported, row.get "highestrating" = .ok highest ∧
    row.get "rating" = .ok reported ∧
      pyMax (highest.orElse (.int 0)) (reported.orElse (.int 0)) =
        .ok rating.maxRating
  wins : row.getD "wins" (.int 0) = .ok rating.wins
  losses : row.getD "losses" (.int 0) = .ok rating.losses
  streak : row.getD "streak" (.int 0) = .ok rating.streak
  drops : row.getD "drops" (.int 0) = .ok rating.drops

theorem orElse_of_truthy {value : Json} (other : Json)
    (htruthy : value.truthy = true) : value.orElse other = value := by
  rw [Json.orElse, if_pos htruthy]

theorem orElse_of_falsy {value : Json} (other : Json)
    (hfalsy : value.truthy = false) : value.orElse other = other := by
  rw [Json.orElse, hfalsy]
  rfl

theorem getD_of_item {value found : Json} {field : String}
    (hitem : value.item field = .ok found) (default : Json) :
    value.getD field default = .ok found := by
  unfold Json.item at hitem
  split at hitem
  · next fields =>
      split at hitem
      · next hlookup =>
          cases hitem
          rw [Json.getD, hlookup]
          rfl
      · cases hitem
  · cases hitem

theorem keyOf_of_item {value found : Json} {field : String} {key : DictKey}
    (hitem : value.item field = .ok found) (hkey : found.dictKey = .ok key) :
    keyOf value field = some key := by
  rw [keyOf, Json.get, getD_of_item hitem]
  simp only [bind, Except.bind, hkey]
  rfl

/-- A statgroup without members gives no row, another the row of its first
member under its id. -/
theorem parseStatGroup_ok {group : Json} {result : Option (Json × PlayerDict)}
    (hparse : parseStatGroup group = .ok result) :
    result.map (fun entry => (entry.1.dictKey.toOption, entry.2.profileId)) =
      (statgroupProfile group).map fun entry => (some entry.1, entry.2) := by
  rw [parseStatGroup] at hparse
  obtain ⟨members, hmembers, hparse⟩ := bind_eq_ok.mp hparse
  unfold statgroupProfile firstMember
  rw [hmembers]
  cases htruthy : members.truthy with
  | false =>
      simp only [orElse_of_falsy _ htruthy] at hparse
      cases hparse
      cases members with
      | arr items => cases items with
          | nil => rfl
          | cons first rest => cases htruthy
      | _ => rfl
  | true =>
      simp only [orElse_of_truthy _ htruthy, htruthy] at hparse
      rw [if_neg (by simp)] at hparse
      split at hparse
      · next first rest =>
          simp only [bind_eq_ok] at hparse
          obtain ⟨_, hfirst, profileId, hprofile, groupId, hid, key, hkey, _, _,
            _, _, _, _, _, _, _, _, _, _, _, _, _, _, hresult⟩ := hparse
          cases hfirst
          cases hresult
          simp [keyOf_of_item hid hkey, hprofile, hkey, Except.toOption]
      · cases hparse
      · cases hparse
      · cases hparse

/-- A row gives nothing when its statgroup is unknown or has no profile, and
otherwise a row of that profile. -/
theorem parseLeaderboardStat_ok {dict : Dict DictKey Json} {row : Json}
    {result : Option RatingDict}
    (hparse : parseLeaderboardStat dict row = .ok result) :
    ∃ key, keyOf row "statgroup_id" = some key ∧
      result.map (·.profileId) = (dict.get? key).filter (!·.isNull) ∧
      ∀ rating, result = some rating → ReadRow row rating := by
  rw [parseLeaderboardStat] at hparse
  obtain ⟨statgroup, hget, hparse⟩ := bind_eq_ok.mp hparse
  obtain ⟨key, hkey, hparse⟩ := bind_eq_ok.mp hparse
  have hkeyOf : keyOf row "statgroup_id" = some key := by
    rw [keyOf, hget]
    simp only [bind, Except.bind, hkey]
    rfl
  refine ⟨key, hkeyOf, ?_⟩
  split at hparse
  · next hlookup =>
      cases hparse
      refine ⟨?_, fun rating hrating => by cases hrating⟩
      rw [hlookup]
      rfl
  · next hlookup =>
      cases hparse
      refine ⟨?_, fun rating hrating => by cases hrating⟩
      rw [hlookup]
      rfl
  · next profileId hnull hlookup =>
      have hprofile : profileId.isNull = false := by
        cases profileId with
        | null => exact absurd rfl hnull
        | _ => rfl
      simp only [bind_eq_ok] at hparse
      obtain ⟨_, _, current, hcurrent, highest, hhighest, reported, hreported,
        peak, hpeak, wins, hwins, losses, hlosses, streak, hstreak, drops,
        hdrops, _, _, _, _, _, _, _, _, _, _, _, _, hresult⟩ := hparse
      cases hresult
      constructor
      · rw [hlookup, Option.filter_some, hprofile]
        rfl
      · intro rating hrating
        cases hrating
        exact ⟨hcurrent, ⟨highest, reported, hhighest, hreported, hpeak⟩, hwins,
          hlosses, hstreak, hdrops⟩

/-- What a parsed payload is: every counting entry gives its row, and every
row comes from one. -/
structure ParsedStats (payload : Json) (players : List PlayerDict)
    (ratings : List RatingDict) : Prop where
  listed : ∀ row ∈ ratings, ∃ player ∈ players, player.profileId = row.profileId
  named : ratings.map (·.profileId) =
    (entriesOf payload "leaderboardStats").filterMap
      (namedProfile (entriesOf payload "statGroups"))
  entry : ∀ rating ∈ ratings, ∃ row ∈ entriesOf payload "leaderboardStats",
    (namedProfile (entriesOf payload "statGroups") row).isSome ∧
      ReadRow row rating
  rating : ∀ row ∈ entriesOf payload "leaderboardStats",
    (namedProfile (entriesOf payload "statGroups") row).isSome →
      ∃ rating ∈ ratings, ReadRow row rating

theorem entriesOf_eq {payload list : Json} {field : String}
    {entries : List Json} (hlist : payload.getD field (.arr []) = .ok list)
    (hentries : list.iterate = .ok entries) :
    entriesOf payload field = entries := by
  rw [entriesOf, hlist]
  simp only [bind, Except.bind, hentries]
  rfl

/-- The statgroup map holds the non-empty groups, in order. -/
theorem statgroupPairs_eq {groups : List Json}
    {parsed : List (Option (Json × PlayerDict))}
    (hparsed : groups.mapM parseStatGroup = .ok parsed)
    {pairs : List (DictKey × Json)}
    (hpairs : ((parsed.filterMap id).mapM fun entry => do
      .ok (← entry.1.dictKey, entry.2.profileId)) = .ok pairs) :
    pairs = groups.filterMap statgroupProfile := by
  have hfound := filterMap_of_mapM hparsed
    (fun entry => (entry.1.dictKey.toOption, entry.2.profileId))
    fun group _ result hgroup => parseStatGroup_ok hgroup
  have hkeyed : (parsed.filterMap id).map
      (fun entry => (entry.1.dictKey.toOption, entry.2.profileId)) =
        pairs.map fun pair => (some pair.1, pair.2) := by
    have hall := mapM_eq_ok.mp hpairs
    generalize parsed.filterMap id = found at hall
    clear hpairs hfound hparsed
    induction hall with
    | nil => rfl
    | @cons entry pair found pairs hfirst hrest ih =>
        obtain ⟨key, hkey, hpair⟩ := bind_eq_ok.mp hfirst
        cases hpair
        rw [List.map_cons, List.map_cons, ih, hkey]
        rfl
  have hmap : pairs.map (fun pair => (some pair.1, pair.2)) =
      (groups.filterMap statgroupProfile).map
        fun pair => (some pair.1, pair.2) := by
    rw [← hkeyed, hfound, List.map_filterMap]
  have hinjective : Function.Injective
      fun pair : DictKey × Json => (some pair.1, pair.2) := fun _ _ heq => by
    simpa [Prod.ext_iff] using heq
  exact List.map_injective_iff.mpr hinjective hmap

theorem mem_of_namedProfile {groups : List Json} {row profileId : Json}
    (hnamed : namedProfile groups row = some profileId) :
    ∃ key, (key, profileId) ∈ groups.filterMap statgroupProfile := by
  rw [namedProfile] at hnamed
  obtain ⟨key, _, hprofile⟩ := Option.bind_eq_some_iff.mp hnamed
  obtain ⟨hlookup, _⟩ := Option.filter_eq_some_iff.mp hprofile
  exact ⟨key, List.mem_reverse.mp (Dict.mem_of_get? hlookup)⟩

theorem parsePlayerStats_ok {payload : Json} {players : List PlayerDict}
    {ratings : List RatingDict}
    (hparse : parsePlayerStats payload = .ok (players, ratings)) :
    ParsedStats payload players ratings := by
  simp only [parsePlayerStats, bind_eq_ok] at hparse
  obtain ⟨groupList, hgroupList, groups, hgroups, parsed, hparsed, pairs,
    hpairs, statList, hstatList, stats, hstats, rows, hrows, hresult⟩ := hparse
  cases hresult
  obtain rfl := statgroupPairs_eq hparsed hpairs
  have hgroupEntries := entriesOf_eq hgroupList hgroups
  have hstatEntries := entriesOf_eq hstatList hstats
  have hread : ∀ row ∈ stats, ∀ result,
      parseLeaderboardStat (Dict.ofPairs (groups.filterMap statgroupProfile))
        row = .ok result →
      result.map (·.profileId) = namedProfile groups row ∧
        ∀ rating, result = some rating → ReadRow row rating := by
    intro row _ result hrow
    obtain ⟨key, hkey, hprofile, hreads⟩ := parseLeaderboardStat_ok hrow
    refine ⟨?_, hreads⟩
    rw [hprofile, namedProfile, hkey]
    rfl
  have hnamed := filterMap_of_mapM hrows (·.profileId)
    fun row hrow result hresult => (hread row hrow result hresult).1
  have hcomes : ∀ rating ∈ rows.filterMap id, ∃ row ∈ stats,
      namedProfile groups row = some rating.profileId ∧ ReadRow row rating := by
    intro rating hrating
    obtain ⟨result, hresult, rfl⟩ := List.mem_filterMap.mp hrating
    obtain ⟨row, hrow, hparsed⟩ := exists_of_mem_mapM hrows hresult
    obtain ⟨hprofile, hreads⟩ := hread row hrow _ hparsed
    exact ⟨row, hrow, hprofile.symm, hreads rating rfl⟩
  constructor
  · intro rating hrating
    obtain ⟨row, _, hprofile, _⟩ := hcomes rating hrating
    obtain ⟨key, hpair⟩ := mem_of_namedProfile hprofile
    obtain ⟨entry, hentry, hbuilt⟩ := exists_of_mem_mapM hpairs hpair
    obtain ⟨_, _, hpairEq⟩ := bind_eq_ok.mp hbuilt
    have hsame := congrArg Prod.snd (Except.ok.inj hpairEq)
    exact ⟨entry.2, List.mem_map_of_mem hentry, hsame⟩
  · rw [hstatEntries, hgroupEntries]
    exact hnamed
  · intro rating hrating
    obtain ⟨row, hrow, hprofile, hreads⟩ := hcomes rating hrating
    rw [hstatEntries, hgroupEntries]
    exact ⟨row, hrow, by rw [hprofile]; rfl, hreads⟩
  · rw [hstatEntries, hgroupEntries]
    intro row hrow hsome
    obtain ⟨result, hresult, hparsed⟩ := mem_of_mapM hrows hrow
    obtain ⟨hprofile, hreads⟩ := hread row hrow result hparsed
    cases result with
    | none => rw [← hprofile] at hsome; cases hsome
    | some rating =>
        exact ⟨rating, List.mem_filterMap.mpr ⟨_, hresult, rfl⟩,
          hreads rating rfl⟩

/-- What is read off the counting entries holds of the rows if it holds of the
entries. -/
theorem ParsedStats.forall_iff {payload : Json} {players : List PlayerDict}
    {ratings : List RatingDict} (hstats : ParsedStats payload players ratings)
    {ofRating : RatingDict → Prop} {ofEntry : Json → Prop}
    (hread : ∀ row ∈ entriesOf payload "leaderboardStats", ∀ rating,
      ReadRow row rating → (ofRating rating ↔ ofEntry row)) :
    (∀ rating ∈ ratings, ofRating rating) ↔
      ∀ row ∈ entriesOf payload "leaderboardStats",
        (namedProfile (entriesOf payload "statGroups") row).isSome →
          ofEntry row := by
  constructor
  · intro hall row hrow hnamed
    obtain ⟨rating, hrating, hreads⟩ := hstats.rating row hrow hnamed
    exact (hread row hrow rating hreads).mp (hall rating hrating)
  · intro hall rating hrating
    obtain ⟨row, hrow, hnamed, hreads⟩ := hstats.entry rating hrating
    exact (hread row hrow rating hreads).mpr (hall row hrow hnamed)

theorem not_nullCounted_iff {payload : Json} {field : String} :
    ¬ NullCounted payload field ↔
      ∀ row ∈ entriesOf payload "leaderboardStats",
        (namedProfile (entriesOf payload "statGroups") row).isSome →
          row.getD field (.int 0) ≠ .ok .null := by
  simp only [NullCounted, not_exists, not_and]

section Fields

variable {row value : Json} {field : String} {rating : RatingDict}

theorem getD_cases (hget : row.get field = .ok value) (default : Json) :
    row.getD field default = .ok value ∨
      (value = .null ∧ row.getD field default = .ok default) := by
  cases row with
  | obj fields =>
      cases hlookup : fields.lookup field with
      | none =>
          simp only [Json.get, Json.getD, hlookup, Option.getD_none] at hget ⊢
          cases hget
          exact Or.inr ⟨rfl, trivial⟩
      | some found =>
          simp only [Json.get, Json.getD, hlookup, Option.getD_some] at hget ⊢
          exact Or.inl hget
  | _ => cases hget

theorem OptionalInt.orElse_zero (hfield : OptionalInt row field)
    (hget : row.get field = .ok value) :
    ∃ n, value.orElse (.int 0) = .int n := by
  rcases hfield with hnull | ⟨n, hint⟩
  · cases hget.symm.trans hnull
    exact ⟨0, rfl⟩
  · cases hget.symm.trans hint
    by_cases hzero : n = 0
    · subst hzero
      exact ⟨0, rfl⟩
    · exact ⟨n, orElse_of_truthy _ (by simp [Json.truthy, hzero])⟩

theorem OptionalInt.int_iff (hfield : OptionalInt row field)
    (hread : row.getD field (.int 0) = .ok value) :
    (∃ n, value = .int n) ↔ row.getD field (.int 0) ≠ .ok .null := by
  rw [hread]
  constructor
  · rintro ⟨n, rfl⟩ hnull
    cases hnull
  · intro hpresent
    rcases hfield with hget | ⟨n, hget⟩
    · rcases getD_cases hget (.int 0) with hsame | ⟨_, hdefault⟩
      · exact absurd (hread.symm.trans hsame) hpresent
      · exact ⟨0, Except.ok.inj (hread.symm.trans hdefault)⟩
    · rcases getD_cases hget (.int 0) with hsame | ⟨hnull, _⟩
      · exact ⟨n, Except.ok.inj (hread.symm.trans hsame)⟩
      · cases hnull

theorem pyMax_int (left right : Int) :
    pyMax (.int left) (.int right) =
      .ok (if left < right then .int right else .int left) := rfl

/-- The peak is floored at the rating, so only the rating can be missing. -/
theorem ReadRow.peaked_iff (hrow : ReadRow row rating)
    (hrating : OptionalInt row "rating")
    (hhighest : OptionalInt row "highestrating") :
    rating.Peaked ↔ row.getD "rating" (.int 0) ≠ .ok .null := by
  rw [← hrating.int_iff hrow.currentRating]
  constructor
  · rintro ⟨current, _, hcurrent, _, _⟩
    exact ⟨current, hcurrent⟩
  · rintro ⟨current, hcurrent⟩
    obtain ⟨highest, reported, hget, hreported, hpeak⟩ := hrow.maxRating
    obtain ⟨h, hh⟩ := hhighest.orElse_zero hget
    have hfloor : reported.orElse (.int 0) = .int current := by
      have hread := hrow.currentRating
      rw [hcurrent] at hread
      rcases getD_cases hreported (.int 0) with hsame | ⟨rfl, hdefault⟩
      · cases hsame.symm.trans hread
        by_cases hzero : current = 0
        · subst hzero
          rfl
        · exact orElse_of_truthy _ (by simp [Json.truthy, hzero])
      · cases hdefault.symm.trans hread
        rfl
    rw [hh, hfloor, pyMax_int] at hpeak
    by_cases hlow : h < current
    · rw [if_pos hlow] at hpeak
      exact ⟨current, current, hcurrent, (Except.ok.inj hpeak).symm,
        le_refl current⟩
    · rw [if_neg hlow] at hpeak
      exact ⟨current, h, hcurrent, (Except.ok.inj hpeak).symm, not_lt.mp hlow⟩

/-- The counters that have a column without null. -/
def counterFields : List String := ["wins", "losses", "streak", "drops"]

theorem ReadRow.counted_iff (hrow : ReadRow row rating)
    (hfields : ∀ field ∈ counterFields, OptionalInt row field) :
    rating.Counted ↔
      ∀ field ∈ counterFields, row.getD field (.int 0) ≠ .ok .null := by
  have hwins := (hfields "wins" (by decide)).int_iff hrow.wins
  have hlosses := (hfields "losses" (by decide)).int_iff hrow.losses
  have hstreak := (hfields "streak" (by decide)).int_iff hrow.streak
  have hdrops := (hfields "drops" (by decide)).int_iff hrow.drops
  simp only [RatingDict.Counted, counterFields, List.forall_mem_cons,
    hwins, hlosses, hstreak, hdrops]
  simp

end Fields

theorem RatingDict.bind_profileId {rating : RatingDict} {now : Instant}
    {row : PlayerRating} (hbind : rating.bind now = .ok row) :
    rating.profileId.asInt? = some row.profileId := by
  rw [RatingDict.bind] at hbind
  obtain ⟨profileId, hprofile, hbind⟩ := bind_eq_ok.mp hbind
  simp only [bind_eq_ok] at hbind
  obtain ⟨_, _, _, _, _, _, _, _, _, _, _, _, _, _, _, _, _, _, _, _, _, _, hrow⟩ :=
    hbind
  cases hrow
  exact asInt?_of_bindInt hprofile

theorem PlayerDict.bind_profileId {player : PlayerDict} {now : Instant}
    {row : Player} (hbind : player.bind now = .ok row) :
    player.profileId.asInt? = some row.profileId := by
  rw [PlayerDict.bind] at hbind
  obtain ⟨profileId, hprofile, hbind⟩ := bind_eq_ok.mp hbind
  simp only [bind_eq_ok] at hbind
  obtain ⟨_, _, _, _, _, _, _, _, _, _, _, _, _, _, _, _, hrow⟩ := hbind
  cases hrow
  exact asInt?_of_bindInt hprofile

/-- Rows that were parsed and bound together are written: each player is there
before its ratings. -/
theorem writeStats_of_boundStats {payload : Json} {now : Instant}
    {bound : List Player × List PlayerRating}
    (hbound : boundStats now payload = .ok bound) (db : Database) :
    ∃ db', writeStats db now bound.1 bound.2 = .ok db' := by
  rw [boundStats] at hbound
  obtain ⟨⟨players, ratings⟩, hparse, hbound⟩ := bind_eq_ok.mp hbound
  obtain ⟨playerRows, hplayers, hbound⟩ := bind_eq_ok.mp hbound
  obtain ⟨ratingRows, hratings, hbound⟩ := bind_eq_ok.mp hbound
  cases hbound
  have hlisted := (parsePlayerStats_ok hparse).listed
  have hwritten : ∀ row ∈ ratingRows,
      ((playerRows.foldl upsertPlayer db).players.find?
        row.profileId).isSome := by
    intro row hrow
    obtain ⟨rating, hrating, hbindRating⟩ := exists_of_mem_mapM hratings hrow
    obtain ⟨player, hplayer, hsame⟩ := hlisted rating hrating
    obtain ⟨stored, hstored, hbindPlayer⟩ := mem_of_mapM hplayers hplayer
    have hkey : stored.profileId = row.profileId := by
      have hint := RatingDict.bind_profileId hbindRating
      rw [← hsame, PlayerDict.bind_profileId hbindPlayer] at hint
      exact Option.some.inj hint
    have hlast :
        (lastUnder Player.profileId row.profileId playerRows).isSome := by
      rw [Option.isSome_iff_ne_none]
      intro hnone
      exact lastUnder_eq_none_iff.mp hnone stored hstored hkey
    rw [foldl_upsertPlayer, Table.find?_overwriteAll, Option.isSome_or, hlast,
      Bool.true_or]
  exact writeStats_isOk now hwritten

/-- A payload's rows are storable exactly when no row that names a member's
statgroup has its rating null; the counters are integers as well exactly when
none of them is null either. -/
theorem stats_storable_iff {payload : Json} (hfields : OptionalInts payload)
    {players : List PlayerDict} {ratings : List RatingDict}
    (hparse : parsePlayerStats payload = .ok (players, ratings)) :
    (Storable payload players ratings ↔ ¬ NullCounted payload "rating") ∧
      ((Storable payload players ratings ∧ ∀ row ∈ ratings, row.Counted) ↔
        ∀ field ∈ "rating" :: counterFields, ¬ NullCounted payload field) := by
  have hstats := parsePlayerStats_ok hparse
  have hpeaked : (∀ row ∈ ratings, row.Peaked) ↔
      ¬ NullCounted payload "rating" := by
    rw [hstats.forall_iff fun row hrow rating hread => hread.peaked_iff
      (hfields row hrow _ (by decide)) (hfields row hrow _ (by decide)),
      not_nullCounted_iff]
  have hcounters : ∀ field ∈ counterFields, field ∈ optionalFields := by decide
  have hcounted : (∀ row ∈ ratings, row.Counted) ↔
      ∀ field ∈ counterFields, ¬ NullCounted payload field := by
    rw [hstats.forall_iff fun row hrow rating hread => hread.counted_iff
      fun field hfield => hfields row hrow field (hcounters field hfield)]
    simp only [not_nullCounted_iff]
    constructor
    · exact fun hall field hfield row hrow hnamed =>
        hall row hrow hnamed field hfield
    · exact fun hall row hrow hnamed field hfield =>
        hall field hfield row hrow hnamed
  have hstorable : Storable payload players ratings ↔
      ∀ row ∈ ratings, row.Peaked := by
    constructor
    · exact fun hstorable => hstorable.peaked
    · intro hall
      exact ⟨hall, hstats.listed, hstats.named,
        fun now db bound hbound => writeStats_of_boundStats hbound db⟩
  refine ⟨hstorable.trans hpeaked, ?_⟩
  rw [hstorable, hpeaked, hcounted, List.forall_mem_cons]

namespace StatsWitness

/-- One statgroup of one member, one of none, and the rows given. -/
def payload (stats : List (List (String × Json))) : Json :=
  .obj [("statGroups", .arr [
      .obj [("id", .int 1), ("members", .arr [
        .obj [("profile_id", .int 7), ("alias", .str "Hera")]])],
      .obj [("id", .int 2), ("members", .arr [])]]),
    ("leaderboardStats", .arr (stats.map .obj))]

def player : PlayerDict where
  profileId := .int 7
  aliasName := .str "Hera"
  country := .null
  steamId := .null
  level := .int 0
  xp := .int 0
  regionId := .int 0
  clanName := .null

/-- A row of the member's statgroup with this rating. -/
def rated (rating : Json) : List (String × Json) :=
  [("statgroup_id", .int 1), ("leaderboard_id", .int 3), ("rating", rating),
    ("highestrating", .int 0)]

def ratedRow (current peak : Json) : RatingDict where
  profileId := .int 7
  leaderboardId := .int 3
  currentRating := current
  maxRating := peak
  wins := .int 0
  losses := .int 0
  streak := .int 0
  drops := .int 0
  rank := .null
  rankTotal := .null
  regionRank := .null
  regionRankTotal := .null
  lastMatchAt := none

theorem optionalInts (stats : List (List (String × Json)))
    (hstats : ∀ fields ∈ stats, ∀ field ∈ optionalFields,
      OptionalInt (.obj fields) field) : OptionalInts (payload stats) := by
  intro row hrow
  have hentries : entriesOf (payload stats) "leaderboardStats" =
      stats.map .obj := rfl
  rw [hentries] at hrow
  obtain ⟨fields, hfields, rfl⟩ := List.mem_map.mp hrow
  exact hstats fields hfields

end StatsWitness

open StatsWitness in
/-- A row with a rating and no peak counts, one of the empty statgroup does
not. -/
theorem stats_storable_iff_floored :
    let stats := [rated (.int 819), [("statgroup_id", .int 2),
      ("leaderboard_id", .int 3), ("rating", .null)]]
    (Storable (payload stats) [player] [ratedRow (.int 819) (.int 819)] ↔
        ¬ NullCounted (payload stats) "rating") ∧
      ((Storable (payload stats) [player] [ratedRow (.int 819) (.int 819)] ∧
          ∀ row ∈ [ratedRow (.int 819) (.int 819)], row.Counted) ↔
        ∀ field ∈ "rating" :: counterFields,
          ¬ NullCounted (payload stats) field) := by
  intro stats
  refine stats_storable_iff (optionalInts stats ?_) rfl
  simp [stats, rated, optionalFields, OptionalInt, Json.get, Json.getD,
    List.lookup_cons, List.lookup_nil]

open StatsWitness in
/-- A null rating is kept while the peak is floored at 0, and the row fails
the whole tick. -/
theorem null_rating_unstorable :
    let stats := [rated .null]
    OptionalInts (payload stats) ∧
      parsePlayerStats (payload stats) =
        .ok ([player], [ratedRow .null (.int 0)]) ∧
      ¬ Storable (payload stats) [player] [ratedRow .null (.int 0)] ∧
      tickPlayerStats 0 [7] (payload stats) .empty = .error .integrityError := by
  intro stats
  refine ⟨optionalInts stats ?_, rfl, fun hstorable => ?_, rfl⟩
  · simp [stats, rated, optionalFields, OptionalInt, Json.get, Json.getD,
      List.lookup_cons, List.lookup_nil]
  · obtain ⟨_, _, hcurrent, _⟩ := hstorable.peaked _ (List.mem_singleton.mpr rfl)
    cases hcurrent

end LiveStandings
