/-
The reads of tournaments and their owners.  A path names a tournament by its
slug, or asks for the current one; who owns it is read by the owner gate, by
the list of owners and by `/me`, each in its own query.
-/
import LiveStandings.Deployment
import LiveStandings.UsersClient
import LiveStandings.Library.Pages

namespace LiveStandings

open KeyedTable PyJson Ranking Pages Runs TtlCache

/-- `CURRENT_TOURNAMENT_ALIAS`. -/
def currentTournamentAlias : String := "current"

/-- `Tournament.start_date <= now`; a null date has not started. -/
def Tournament.hasStarted (now : Instant) (t : Tournament) : Bool :=
  t.startDate.any (· ≤ now)

/-- The order of the alias query: what has started, the latest start, the
latest creation. -/
def currentKey (now : Instant) (t : Tournament) :
    Bool ×ₗ (Bool ×ₗ Int) ×ₗ Int :=
  toLex (!t.hasStarted now,
    toLex (descNullsLast (t.startDate.filter (· ≤ now)), -t.createdAt))

/-- `get_tournament`. -/
def getTournament (ties : TieOrder Tournament) (db : Database) (now : Instant)
    (slug : String) : Except Raised Tournament :=
  let row :=
    if slug = currentTournamentAlias then
      (page ties (currentKey now) 1 db.tournaments.rows).head?
    else db.tournaments.rows.find? (·.slug = slug)
  match row with
  | some tournament => .ok tournament
  | none => .error (httpException 404 "Tournament not found" final_404)

/-- `list_tournaments`. -/
def listTournaments (platform : Platform) (db : Database) : Json :=
  let tournaments := sortBy (fun t => -t.createdAt) db.tournaments.rows
  .arr (tournaments.map fun t =>
    serializeTournament platform t (hostStreamLiveTournaments db))

/-- The query of `get_me`: the tournaments joined to the caller's owner
rows. -/
def ownedTournaments (db : Database) (userId : String) : List Tournament :=
  sortBy (fun t => -t.createdAt) (db.tournaments.rows.flatMap fun t =>
    (db.tournamentOwners.rows.filter fun owner =>
      owner.tournamentId = t.id && owner.userId = userId).map fun _ => t)

/-- `get_me`. -/
def getMe (platform : Platform) (db : Database) (userId : String) : Json :=
  let tournaments := ownedTournaments db userId
  .obj [("user_id", .str userId),
    ("owned_tournaments", .arr (tournaments.map fun t =>
      serializeTournament platform t (hostStreamLiveTournaments db))),
    ("can_create_tournaments", .bool (approvedCreator db userId))]

/-- `TournamentOwnerRead`. -/
structure TournamentOwnerRead where
  userId : String
  createdAt : Instant
  displayName : Json
  email : Json
  avatarUrl : Json

/-- The owner rows of a tournament, oldest first. -/
def ownerRows (db : Database) (t : Tournament) : List TournamentOwner :=
  sortBy (·.createdAt)
    (db.tournamentOwners.rows.filter (·.tournamentId = t.id))

/-- `list_tournament_owners`, with what `fetch_identities` returned. -/
def listTournamentOwners (db : Database) (t : Tournament)
    (identities : Dict String UserIdentity) : List TournamentOwnerRead :=
  (ownerRows db t).map fun row =>
    let identity := identities.get? row.userId
    { userId := row.userId
      createdAt := row.createdAt
      displayName := (identity.map (·.displayName)).getD .null
      email := (identity.map (·.email)).getD .null
      avatarUrl := (identity.map (·.avatarUrl)).getD .null }

section Current

variable {ties : TieOrder Tournament} {db : Database} {now now' : Instant}
  {t other : Tournament} {start : Instant}

theorem hasStarted_iff :
    t.hasStarted now = true ↔ ∃ start, t.startDate = some start ∧
      start ≤ now := by
  rw [Tournament.hasStarted, Option.any_eq_true]
  simp

theorem currentKey_started (hstart : t.startDate = some start)
    (hpast : start ≤ now) :
    currentKey now t =
      toLex (false, toLex (toLex (false, -start), -t.createdAt)) := by
  have hstarted := hasStarted_iff.mpr ⟨start, hstart, hpast⟩
  rw [currentKey, hstarted, hstart, Option.filter_some_pos]
  · rfl
  · exact decide_eq_true hpast

theorem currentKey_notStarted (hnot : t.hasStarted now = false) :
    currentKey now t =
      toLex (true, toLex (toLex (true, 0), -t.createdAt)) := by
  have hnone : t.startDate.filter (· ≤ now) = none := by
    rw [Option.filter_eq_none_iff]
    intro start hstart hpast
    rw [hasStarted_iff.mpr ⟨start, hstart, of_decide_eq_true hpast⟩] at hnot
    cases hnot
  rw [currentKey, hnot, hnone]
  rfl

theorem startedKey_le_iff {start created start' created' : Int} :
    (toLex (false, toLex (toLex (false, -start), -created)) :
        Bool ×ₗ (Bool ×ₗ Int) ×ₗ Int) ≤
        toLex (false, toLex (toLex (false, -start'), -created')) ↔
      start' < start ∨ start' = start ∧ created' ≤ created := by
  simp [Prod.Lex.toLex_le_toLex, Prod.Lex.toLex_lt_toLex, eq_comm]

theorem getTournament_current :
    getTournament ties db now currentTournamentAlias = .ok t →
      t ∈ db.tournaments.rows ∧
        ∀ other ∈ db.tournaments.rows, currentKey now t ≤ currentKey now other := by
  intro hget
  rw [getTournament, if_pos rfl] at hget
  split at hget
  next found hhead =>
    cases hget
    have hpage := List.mem_of_mem_head? hhead
    refine ⟨mem_of_mem_page hpage, fun other hother => ?_⟩
    rcases mem_page_or_full ties (currentKey now) 1 hother with hin | ⟨_, hlater⟩
    · obtain ⟨rest, hrest⟩ : ∃ rest,
          page ties (currentKey now) 1 db.tournaments.rows = t :: rest :=
        ⟨_, (List.cons_head?_tail hhead).symm⟩
      have hlength :
          (page ties (currentKey now) 1 db.tournaments.rows).length ≤ 1 :=
        List.length_take_le ..
      rw [hrest] at hin hlength
      rcases List.mem_cons.mp hin with rfl | hmem
      · exact le_rfl
      · rw [List.length_cons] at hlength
        have hpos := List.length_pos_of_mem hmem
        omega
    · exact hlater t hpage
  next => cases hget

theorem getTournament_current_error_iff :
    (∃ raised,
        getTournament ties db now currentTournamentAlias = .error raised) ↔
      db.tournaments.rows = [] := by
  rw [getTournament, if_pos rfl]
  constructor
  · rintro ⟨raised, herror⟩
    split at herror
    next => cases herror
    next hhead =>
      have hpage := List.head?_eq_none_iff.mp hhead
      rw [page, List.take_eq_nil_iff] at hpage
      have hsorted := hpage.resolve_left Nat.one_ne_zero
      have hperm := (sortBy_perm (currentKey now)
        (ties.arrange db.tournaments.rows)).trans (ties.perm _)
      exact List.Perm.eq_nil (hsorted ▸ hperm).symm
  · intro hnone
    have harranged : ties.arrange [] = [] := (ties.perm []).eq_nil
    rw [hnone, page, harranged]
    exact ⟨_, rfl⟩

/-- The tournament that started last, of those that have started; else the one
that was created last. -/
structure ResolvesCurrent (db : Database) (now : Instant) (t : Tournament) :
    Prop where
  stored : t ∈ db.tournaments.rows
  started : ∀ other ∈ db.tournaments.rows, ∀ start,
    other.startDate = some start → start ≤ now →
      ∃ latest, t.startDate = some latest ∧ latest ≤ now ∧ start ≤ latest ∧
        (start = latest → other.createdAt ≤ t.createdAt)
  waiting : (∀ other ∈ db.tournaments.rows, other.hasStarted now = false) →
    ∀ other ∈ db.tournaments.rows, other.createdAt ≤ t.createdAt

theorem resolvesCurrent
    (hget : getTournament ties db now currentTournamentAlias = .ok t) :
    ResolvesCurrent db now t := by
  obtain ⟨hstored, hfirst⟩ := getTournament_current hget
  refine ⟨hstored, fun other hother start hstart hpast => ?_,
    fun hwaiting other hother => ?_⟩
  · have hle := hfirst other hother
    rw [currentKey_started hstart hpast] at hle
    cases hstarted : t.hasStarted now with
    | false =>
        rw [currentKey_notStarted hstarted, Prod.Lex.toLex_le_toLex] at hle
        rcases hle with hlt | ⟨heq, _⟩
        · have hlt : true < false := hlt
          exact absurd hlt (by decide)
        · cases heq
    | true =>
        obtain ⟨latest, hlatest, hpast'⟩ := hasStarted_iff.mp hstarted
        rw [currentKey_started hlatest hpast'] at hle
        rcases startedKey_le_iff.mp hle with hlt | ⟨rfl, hcreated⟩
        · exact ⟨latest, hlatest, hpast', hlt.le,
            fun hsame => absurd hsame hlt.ne⟩
        · exact ⟨start, hlatest, hpast', le_rfl, fun _ => hcreated⟩
  · have hle := hfirst other hother
    rw [currentKey_notStarted (hwaiting t hstored),
      currentKey_notStarted (hwaiting other hother)] at hle
    simpa [Prod.Lex.toLex_le_toLex] using hle

end Current

/-- However the query orders tournaments that its key does not tell apart: the
alias always resolves while there is a tournament, to the one that started
last, else to the one created last; and as time passes it never goes back to
one that started earlier. -/
theorem current_tournament (ties ties' : TieOrder Tournament) (db : Database)
    {now now' : Instant} (hnow : now ≤ now') :
    ((∃ raised,
        getTournament ties db now currentTournamentAlias = .error raised) ↔
        db.tournaments.rows = []) ∧
      (∀ t, getTournament ties db now currentTournamentAlias = .ok t →
        ResolvesCurrent db now t) ∧
      ∀ t t', getTournament ties db now currentTournamentAlias = .ok t →
        getTournament ties' db now' currentTournamentAlias = .ok t' →
          ∀ start, t.startDate = some start → start ≤ now →
            ∃ start', t'.startDate = some start' ∧ start ≤ start' := by
  refine ⟨getTournament_current_error_iff, fun t hget => resolvesCurrent hget,
    fun t t' hget hget' start hstart hpast => ?_⟩
  obtain ⟨start', hstart', _, hlater, _⟩ := (resolvesCurrent hget').started t
    (resolvesCurrent hget).stored start hstart (hpast.trans hnow)
  exact ⟨start', hstart', hlater⟩

namespace CurrentWitness

def cup (id : Int) (slug : String) (start : Instant) : Tournament where
  id := id
  slug := slug
  name := slug
  leaderboardId := 3
  rankBy := .peakRating
  startDate := some start
  endDate := none
  prizePoolCents := none
  hostStreamUrls := []
  presentation := []
  createdAt := 0

/-- One cup that has started, and one that will. -/
def twoCups : Database :=
  { Database.empty with
    tournaments := ⟨[cup 1 "autumn" 5, cup 2 "spring" 1], by decide⟩ }

end CurrentWitness

open CurrentWitness in
/-- The alias rolls over when the second cup starts. -/
theorem current_tournament_rollover :
    ResolvesCurrent twoCups 2 (cup 2 "spring" 1) ∧
      ∃ start, (cup 1 "autumn" 5).startDate = some start ∧ 1 ≤ start :=
  let hcurrent := current_tournament .stored .stored twoCups
    (show (2 : Int) ≤ 6 by decide)
  ⟨hcurrent.2.1 _ rfl, hcurrent.2.2 _ _ rfl rfl 1 rfl (by decide)⟩

section Owners

variable {platform : Platform} {http : Request} {registry : Registry}
  {t : Tournament} {userId slug : String}

theorem flatMap_ownerRows (db : Database) (userId : String)
    (rows : List Tournament) :
    (rows.flatMap fun t => (db.tournamentOwners.rows.filter fun owner =>
      owner.tournamentId = t.id && owner.userId = userId).map fun _ => t) =
        rows.filter fun t =>
          (db.tournamentOwners.find? (t.id, userId)).isSome := by
  have hrows (t : Tournament) : (db.tournamentOwners.rows.filter fun owner =>
      owner.tournamentId = t.id && owner.userId = userId) =
        (db.tournamentOwners.find? (t.id, userId)).toList := by
    rw [Table.find?, ← filter_key_eq db.tournamentOwners.keys_nodup]
    refine List.filter_congr fun owner _ => ?_
    simp [TournamentOwner.key]
  simp only [hrows]
  induction rows with
  | nil => rfl
  | cons t rows ih =>
      rw [List.flatMap_cons, ih, List.filter_cons]
      cases db.tournamentOwners.find? (t.id, userId) <;> rfl

theorem mem_ownedTournaments {db : Database} :
    t ∈ ownedTournaments db userId ↔ t ∈ db.tournaments.rows ∧
      (db.tournamentOwners.find? (t.id, userId)).isSome = true := by
  rw [ownedTournaments, mem_sortBy, flatMap_ownerRows, List.mem_filter]

theorem ownedTournaments_nodup (db : Database) (userId : String) :
    (ownedTournaments db userId).Nodup := by
  rw [ownedTournaments, flatMap_ownerRows]
  refine (sortBy_perm _ _).nodup_iff.mpr (List.Nodup.filter _ ?_)
  exact List.Nodup.of_map _ db.tournaments.keys_nodup

theorem mem_ownerRows {db : Database} :
    userId ∈ (ownerRows db t).map (·.userId) ↔
      (db.tournamentOwners.find? (t.id, userId)).isSome = true := by
  simp only [ownerRows, List.mem_map, mem_sortBy, List.mem_filter,
    decide_eq_true_eq]
  constructor
  · rintro ⟨owner, ⟨howner, hid⟩, huser⟩
    exact Option.isSome_iff_exists.mpr ⟨owner,
      db.tournamentOwners.find?_eq_some_iff.mpr ⟨howner, Prod.ext hid huser⟩⟩
  · intro hsome
    obtain ⟨owner, hfind⟩ := Option.isSome_iff_exists.mp hsome
    obtain ⟨howner, hkey⟩ := db.tournamentOwners.find?_eq_some_iff.mp hfind
    obtain ⟨hid, huser⟩ := Prod.mk.inj hkey
    exact ⟨owner, ⟨howner, hid⟩, huser⟩

theorem ownedTournaments_sublist (db : Database) (userId : String) :
    (ownedTournaments db userId).Sublist
      (sortBy (fun t => -t.createdAt) db.tournaments.rows) := by
  rw [ownedTournaments, flatMap_ownerRows, ← filter_sortBy]
  exact List.filter_sublist

theorem nodup_ownedIds (db : Database) (userId : String) :
    ((db.tournamentOwners.rows.filter (·.userId = userId)).map
      (·.tournamentId)).Nodup := by
  refine List.pairwise_map.mpr ((List.Pairwise.filter _
    (List.pairwise_map.mp db.tournamentOwners.keys_nodup)).imp_of_mem ?_)
  intro left right hleft hright hkey hid
  have huser := of_decide_eq_true (List.mem_filter.mp hleft).2
  have huser' := of_decide_eq_true (List.mem_filter.mp hright).2
  exact hkey (Prod.ext hid (huser.trans huser'.symm))

/-- Where owner rows are of stored tournaments, `/me` lists as many tournaments
as `create_tournament` counts. -/
theorem length_ownedTournaments {db : Database}
    (howner : Refers db.tournamentOwners (·.tournamentId) db.tournaments)
    (userId : String) :
    (ownedTournaments db userId).length =
      db.tournamentOwners.rows.countP (·.userId = userId) := by
  rw [ownedTournaments, flatMap_ownerRows, (sortBy_perm _ _).length_eq,
    List.countP_eq_length_filter]
  have hperm : ((db.tournaments.rows.filter fun t =>
      (db.tournamentOwners.find? (t.id, userId)).isSome).map (·.id)).Perm
        ((db.tournamentOwners.rows.filter (·.userId = userId)).map
          (·.tournamentId)) := by
    refine (List.perm_ext_iff_of_nodup
      ((List.filter_sublist.map _).nodup db.tournaments.keys_nodup)
      (nodup_ownedIds db userId)).mpr fun id => ?_
    simp only [List.mem_map, List.mem_filter, decide_eq_true_eq]
    constructor
    · rintro ⟨t, ⟨_, howned⟩, rfl⟩
      obtain ⟨owner, hfind⟩ := Option.isSome_iff_exists.mp howned
      obtain ⟨hmem, hkey⟩ := db.tournamentOwners.find?_eq_some_iff.mp hfind
      obtain ⟨hid, huser⟩ := Prod.mk.inj hkey
      exact ⟨owner, ⟨hmem, huser⟩, hid⟩
    · rintro ⟨owner, ⟨hmem, rfl⟩, rfl⟩
      obtain ⟨t, hfind⟩ := Option.isSome_iff_exists.mp (howner owner hmem)
      obtain ⟨ht, hid⟩ := db.tournaments.find?_eq_some_iff.mp hfind
      have hown : db.tournamentOwners.find? (t.id, owner.userId) = some owner :=
        db.tournamentOwners.find?_eq_some_iff.mpr ⟨hmem, by rw [hid]; rfl⟩
      exact ⟨t, ⟨ht, by rw [hown]; rfl⟩, hid⟩
  simpa using hperm.length_eq

theorem ownerRows_nodup (db : Database) (t : Tournament) :
    ((ownerRows db t).map (·.userId)).Nodup := by
  have hperm := (sortBy_perm (·.createdAt) (db.tournamentOwners.rows.filter
    (·.tournamentId = t.id))).map TournamentOwner.userId
  refine hperm.nodup_iff.mpr (List.pairwise_map.mpr ?_)
  refine (List.Pairwise.filter _
    (List.pairwise_map.mp db.tournamentOwners.keys_nodup)).imp_of_mem ?_
  intro left right hleft hright hkey huser
  have hid := of_decide_eq_true (List.mem_filter.mp hleft).2
  have hid' := of_decide_eq_true (List.mem_filter.mp hright).2
  exact hkey (Prod.ext (hid.trans hid'.symm) huser)

/-- Under unique slugs the gate is the owner row of the named tournament. -/
theorem ownerGate_iff (hslugs : UniqueSlugs registry.db.tournaments)
    (huser : getCurrentUserId platform http registry.toBackend = .ok userId) :
    ownerGate platform http registry slug = .ok t ↔
      t ∈ registry.db.tournaments.rows ∧ t.slug = slug ∧
        (registry.db.tournamentOwners.find? (t.id, userId)).isSome = true := by
  have hnamed : registry.db.tournaments.rows.find? (·.slug = slug) = some t ↔
      t ∈ registry.db.tournaments.rows ∧ t.slug = slug := by
    constructor
    · intro hfind
      have hfound := List.find?_some hfind
      exact ⟨List.mem_of_find?_eq_some hfind, of_decide_eq_true hfound⟩
    · rintro ⟨ht, rfl⟩
      cases hfind : registry.db.tournaments.rows.find? (·.slug = t.slug) with
      | none =>
          have hnot := List.find?_eq_none.mp hfind t ht
          simp at hnot
      | some found =>
          have hfound := List.find?_some hfind
          have hmem := List.mem_of_find?_eq_some hfind
          rw [registry.db.tournaments.eq_of_key_eq hmem ht
            (hslugs found hmem t ht (of_decide_eq_true hfound))]
  rw [ownerGate_eq_ok, hnamed, huser, and_assoc]
  refine and_congr_right fun _ => and_congr_right fun _ => ?_
  constructor
  · rintro ⟨_, hsame, howner⟩
    cases hsame
    exact howner
  · exact fun howner => ⟨userId, rfl, howner⟩

end Owners

/-- In every state that the deployment reaches the three reads of ownership
agree: `/me` lists the tournaments whose gate lets the caller through, and the
list of owners, one row for each, has the users that it lets through. -/
theorem ownership_reads_agree {codec : Codec} {platform : Platform}
    {start registry : Registry} {transactions : List Transaction}
    (hempty : start.db = .empty)
    (hrun : Run (DeploymentStep codec platform) start transactions registry)
    {http : Request} {userId : String}
    (huser : getCurrentUserId platform http registry.toBackend = .ok userId) :
    (∀ t, t ∈ ownedTournaments registry.db userId ↔
        ownerGate platform http registry t.slug = .ok t) ∧
      (∀ slug t, ownerGate platform http registry slug = .ok t →
        t.slug = slug ∧ t ∈ ownedTournaments registry.db userId) ∧
      (ownedTournaments registry.db userId).Nodup ∧
      ∀ t ∈ registry.db.tournaments.rows, ∀ identities,
        ((listTournamentOwners registry.db t identities).map
            (·.userId)).Nodup ∧
          (userId ∈ (listTournamentOwners registry.db t identities).map
              (·.userId) ↔
            ownerGate platform http registry t.slug = .ok t) := by
  have hslugs := (sound_of_run hempty hrun).tournament.slug_unique
  have hgate (slug : String) (t : Tournament) :
      ownerGate platform http registry slug = .ok t ↔
        t ∈ registry.db.tournaments.rows ∧ t.slug = slug ∧
          (registry.db.tournamentOwners.find? (t.id, userId)).isSome = true :=
    ownerGate_iff hslugs huser
  refine ⟨fun t => ?_, fun slug t hok => ?_, ownedTournaments_nodup _ _,
    fun t ht identities => ?_⟩
  · rw [mem_ownedTournaments, hgate]
    exact ⟨fun ⟨ht, howner⟩ => ⟨ht, rfl, howner⟩,
      fun ⟨ht, _, howner⟩ => ⟨ht, howner⟩⟩
  · obtain ⟨ht, hslug, howner⟩ := (hgate slug t).mp hok
    exact ⟨hslug, mem_ownedTournaments.mpr ⟨ht, howner⟩⟩
  · have husers : (listTournamentOwners registry.db t identities).map
        (·.userId) = (ownerRows registry.db t).map (·.userId) := by
      rw [listTournamentOwners, List.map_map]
      rfl
    rw [husers, mem_ownerRows, hgate]
    exact ⟨ownerRows_nodup _ _, fun howner => ⟨ht, rfl, howner⟩,
      fun ⟨_, _, howner⟩ => howner⟩

/-- In every state that the deployment reaches `/me` tells what creating a
tournament will meet: its list is that of all tournaments with others left
out, both queries taking tournaments created at one instant as they are stored,
and as long as the count that is held against the ceiling; a creation is
forbidden if and only if its flag is false, and refused once the list has
reached the ceiling. -/
theorem me_tells_creation {codec : Codec} {platform : Platform}
    {start registry : Registry} {transactions : List Transaction}
    (hempty : start.db = .empty)
    (hrun : Run (DeploymentStep codec platform) start transactions registry)
    (userId : String) :
    ∃ listed owned approved,
      listTournaments platform registry.db = .arr listed ∧
      getMe platform registry.db userId = .obj [("user_id", .str userId),
        ("owned_tournaments", .arr owned),
        ("can_create_tournaments", .bool approved)] ∧
      owned.Sublist listed ∧
      owned.length =
        registry.db.tournamentOwners.rows.countP (·.userId = userId) ∧
      ∀ payload,
        (createStatus (createTournament platform userId payload
            registry.toBackend) = 403 ↔ approved = false) ∧
        (approved = true → maxOwnedTournamentsPerCreator ≤ owned.length →
          createStatus (createTournament platform userId payload
            registry.toBackend) = 422) := by
  have howner := (sound_of_run hempty hrun).tournament.owner_tournament
  have hlength := length_ownedTournaments howner userId
  refine ⟨_, _, _, rfl, rfl, (ownedTournaments_sublist _ _).map _, ?_,
    fun payload => ⟨⟨fun hforbidden => ?_, fun hnot => ?_⟩,
      fun happroved hceiling => ?_⟩⟩
  · rw [List.length_map, hlength]
  · by_contra hallowed
    rw [Bool.not_eq_false] at hallowed
    have hadmitted : NotRefused (createStatus
        (createTournament platform userId payload registry.toBackend)) :=
      createTournament_notRefused platform payload hallowed
    exact hadmitted.2 hforbidden
  · rw [createTournament]
    simp only [hnot, Bool.not_false, if_true]
    rfl
  · rw [List.length_map, hlength] at hceiling
    rw [createTournament]
    simp only [happroved, Bool.not_true, Bool.false_eq_true, if_false,
      if_pos hceiling]
    rfl

open ManagementWitness ManagementRunWitness DeploymentWitness in
theorem me_tells_creation_created :
    ∃ owned approved, getMe platform (afterTransactions BatchWitness.codec
        platform transactions fresh).db defaultTestUserId =
          .obj [("user_id", .str defaultTestUserId),
            ("owned_tournaments", .arr owned),
            ("can_create_tournaments", .bool approved)] ∧
      owned.length = 1 :=
  let ⟨_, owned, approved, _, hme, _, hlength, _⟩ :=
    @me_tells_creation _ platform _ _ _ rfl
      (run_afterTransactions BatchWitness.codec platform transactions fresh)
      defaultTestUserId
  ⟨owned, approved, hme, hlength.trans (by decide)⟩

open ManagementWitness ManagementRunWitness DeploymentWitness in
/-- The creator of the cup is let through its gate, and sees it. -/
theorem ownership_reads_agree_created :
    ∃ t, ownerGate platform (request (.deleteTournament "spring-cup")).http
        (afterTransactions BatchWitness.codec platform transactions fresh)
          "spring-cup" = .ok t ∧
      t ∈ ownedTournaments (afterTransactions BatchWitness.codec platform
        transactions fresh).db defaultTestUserId := by
  have hreads := @ownership_reads_agree _ platform _ _ _ rfl
    (run_afterTransactions BatchWitness.codec platform transactions fresh)
    (request (.deleteTournament "spring-cup")).http defaultTestUserId rfl
  exact ⟨_, rfl, (hreads.2.1 "spring-cup" _ rfl).2⟩

/-- A row without an identity. -/
def TournamentOwnerRead.bare (read : TournamentOwnerRead) : Prop :=
  read.displayName = .null ∧ read.email = .null ∧ read.avatarUrl = .null

/-- A row that shows an identity. -/
structure TournamentOwnerRead.Shows (read : TournamentOwnerRead)
    (identity : UserIdentity) : Prop where
  userId : identity.userId = read.userId
  displayName : read.displayName = identity.displayName
  email : read.email = identity.email
  avatarUrl : read.avatarUrl = identity.avatarUrl

/-- However the lookups of a process overlap, and whatever they are answered:
the list has every owner, oldest first, and each row shows the identity that
the auth API told of that user in the answer of this request or less than a
minute before it asked, or nothing. -/
theorem owners_listed (str : Json → String) {start σ : UsersClient}
    {acts : List IdentityAct} (hfresh : start.Fresh)
    (hrun : Run (IdentityStep str) start acts σ) {i : Nat}
    {identities : Dict String UserIdentity}
    (hdone : σ.calls i = .done identities) (db : Database) (t : Tournament) :
    (listTournamentOwners db t identities).map
        (fun read => (read.userId, read.createdAt)) =
        (ownerRows db t).map (fun row => (row.userId, row.createdAt)) ∧
      (listTournamentOwners db t identities).Pairwise
        (fun left right => left.createdAt ≤ right.createdAt) ∧
      ∀ read ∈ listTournamentOwners db t identities, read.bare ∨
        ∃ identity, read.Shows identity ∧
          Recent str acts i read.userId identity := by
  refine ⟨?_, ?_, fun read hread => ?_⟩
  · rw [listTournamentOwners, List.map_map]
    rfl
  · exact List.pairwise_map.mpr ((sortBy_pairwise _ _).imp id)
  · obtain ⟨row, -, rfl⟩ := List.mem_map.mp hread
    cases hget : identities.get? row.userId with
    | none =>
        exact Or.inl ⟨rfl, rfl, rfl⟩
    | some identity =>
        have hcall := (recentClient_of_run hfresh hrun).calls i
        rw [hdone] at hcall
        have hrecent := hcall row.userId identity hget
        exact Or.inr ⟨identity, ⟨hrecent.userId, rfl, rfl, rfl⟩, hrecent⟩

open IdentityWitness CurrentWitness in
/-- The owner is shown under the name that an earlier call was told. -/
theorem owners_listed_told :
    (listTournamentOwners
      { twoCups with tournamentOwners := ⟨[⟨1, "u", 0⟩], by decide⟩ }
      (cup 1 "autumn" 5) [("u", viper)]).map
        (fun read => (read.userId, read.createdAt)) = [("u", 0)] :=
  (@owners_listed text fresh (asked 1 ["u"] 2 known) _ ⟨rfl, fun _ => rfl⟩
    (run_known.snoc (@IdentityStep.call text known 1 2 ["u"] (by decide) rfl))
    1 [("u", viper)] rfl _ _).1

end LiveStandings
