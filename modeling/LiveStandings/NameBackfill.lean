/-
The migrations that give every roster row a name.  Rows that were linked to a
profile and had no name take the polled alias, which nothing makes unique, in a
column whose names are unique within a tournament.
-/
import LiveStandings.Upserts
import LiveStandings.Library.Fallible

namespace LiveStandings

open Fallible KeyedTable PyJson

variable {P : Type}

/-- `tournament_players` at revision `cb051bd9d638`. -/
structure RosterEntry (P : Type) where
  id : Int
  tournamentId : Int
  profileId : Option Int
  name : Option String
  presentation : P

/-- What the backfill reads of `players`; an alias is never null there. -/
structure PolledAlias where
  profileId : Int
  aliasName : String

abbrev PolledAliases := Table PolledAlias.profileId

/-- `uq_tournament_players_tournament_id_name`; nulls are distinct. -/
abbrev NamesUnique (rows : List (RosterEntry P)) : Prop :=
  rows.Pairwise fun left right =>
    left.tournamentId = right.tournamentId → left.name.isSome →
      left.name ≠ right.name

/-- `uq_tournament_players_tournament_id_profile_id`. -/
abbrev ProfilesUnique (rows : List (RosterEntry P)) : Prop :=
  rows.Pairwise fun left right =>
    left.tournamentId = right.tournamentId → left.profileId.isSome →
      left.profileId ≠ right.profileId

/-- `(profile_id IS NULL) <> (name IS NULL)`. -/
abbrev OneIdentity (rows : List (RosterEntry P)) : Prop :=
  ∀ row ∈ rows, row.profileId.isNone ≠ row.name.isNone

/-- `name` is `NOT NULL`. -/
abbrev AllNamed (rows : List (RosterEntry P)) : Prop :=
  ∀ row ∈ rows, row.name.isSome

/-- A database the schema allows before the two upgrades. -/
structure Baseline (P : Type) where
  rows : List (RosterEntry P)
  players : PolledAliases
  ids : (rows.map (·.id)).Nodup
  profilesUnique : ProfilesUnique rows
  namesUnique : NamesUnique rows
  oneIdentity : OneIdentity rows
  /-- `name` is a `varchar(64)`. -/
  fits : ∀ row ∈ rows, ∀ name ∈ row.name, name.length ≤ 64

/-- The table while it migrates, with the two constraints that change. -/
structure Migrating (P : Type) where
  rows : List (RosterEntry P)
  players : PolledAliases
  identityChecked : Bool
  nameRequired : Bool

/-- The constraints in force. -/
abbrev Migrating.Admits (db : Migrating P) (rows : List (RosterEntry P)) :
    Prop :=
  NamesUnique rows ∧ (db.identityChecked → OneIdentity rows) ∧
    (db.nameRequired → AllNamed rows)

/-- One `UPDATE tournament_players`.  The rows it names had no name, so what
clashes while it runs still clashes at its end. -/
def Migrating.update (db : Migrating P)
    (assign : RosterEntry P → Except PyError (RosterEntry P)) :
    Except PyError (Migrating P) := do
  let rows ← db.rows.mapM assign
  if db.Admits rows then .ok { db with rows := rows }
  else .error .integrityError

/-- `SET name = label`. -/
def storeName (row : RosterEntry P) (label : String) :
    Except PyError (RosterEntry P) := do
  let name ← fitText 64 label
  .ok { row with name := some name }

/-- `'Player ' || profile_id`. -/
def syntheticLabel (profileId : Int) : String :=
  "Player " ++ toString profileId

/-- The polled alias of a linked row without a name. -/
def polledLabel (players : PolledAliases) (row : RosterEntry P) :
    Option String :=
  match row.name with
  | some _ => none
  | none => (row.profileId.bind players.find?).map (·.aliasName)

/-- Linked rows whose player was polled take the alias. -/
def nameFromAlias (players : PolledAliases) (row : RosterEntry P) :
    Except PyError (RosterEntry P) :=
  match polledLabel players row with
  | some label => storeName row label
  | none => .ok row

/-- The other linked rows take the synthetic label. -/
def nameFromId (row : RosterEntry P) : Except PyError (RosterEntry P) :=
  match row.profileId, row.name with
  | some profileId, none => storeName row (syntheticLabel profileId)
  | _, _ => .ok row

/-- The two `UPDATE`s both upgrades run. -/
def Migrating.backfill (db : Migrating P) : Except PyError (Migrating P) := do
  let db ← db.update (nameFromAlias db.players)
  db.update nameFromId

/-- `upgrade` of revision `1b4c7991f59a`: the check goes before the backfill,
which it would refuse. -/
def upgradeExpand (db : Migrating P) : Except PyError (Migrating P) :=
  { db with identityChecked := false }.backfill

/-- `upgrade` of revision `ade9ce0a25d8`. -/
def upgradeContract (db : Migrating P) : Except PyError (Migrating P) := do
  let db ← db.backfill
  if AllNamed db.rows then .ok { db with nameRequired := true }
  else .error .integrityError

def Baseline.start (db : Baseline P) : Migrating P where
  rows := db.rows
  players := db.players
  identityChecked := true
  nameRequired := false

/-- Both upgrades, one after the other. -/
def Baseline.upgrade (db : Baseline P) : Except PyError (Migrating P) := do
  upgradeContract (← upgradeExpand db.start)

/-- `do_run_migrations`: what the database holds then, and what was raised.
The one transaction is rolled back if an upgrade raises. -/
def doRunMigrations (upgrade : Migrating P → Except PyError (Migrating P))
    (db : Migrating P) : Migrating P × Except PyError Unit :=
  match upgrade db with
  | .ok after => (after, .ok ())
  | .error error => (db, .error error)

/-- The label of a profile: its alias, or the synthetic one. -/
def profileLabel (players : PolledAliases) (profileId : Int) : String :=
  ((players.find? profileId).map (·.aliasName)).getD (syntheticLabel profileId)

/-- The name a row ends with; `none` where its label does not fit. -/
def finalName (players : PolledAliases) (row : RosterEntry P) : Option String :=
  row.name.or (row.profileId.bind fun profileId =>
    (fitText 64 (profileLabel players profileId)).toOption)

/-- The labels fit, and differ within a tournament from each other and from
the names that are there. -/
structure Baseline.Backfillable (db : Baseline P) : Prop where
  fits : ∀ row ∈ db.rows, (finalName db.players row).isSome
  distinct : db.rows.Pairwise fun left right =>
    left.tournamentId = right.tournamentId →
      finalName db.players left ≠ finalName db.players right

/-- What the upgrades promise. -/
structure Baseline.Backfilled (db : Baseline P) (final : Migrating P) :
    Prop where
  kept : List.Forall₂ (fun row row' =>
    row'.id = row.id ∧ row'.tournamentId = row.tournamentId ∧
      row'.profileId = row.profileId ∧
      row'.presentation = row.presentation ∧
      (row.profileId = none → row'.name = row.name)) db.rows final.rows
  named : ∀ row ∈ final.rows, ∃ name, row.name = some name ∧ name.length ≤ 64
  distinct : final.rows.Pairwise fun left right =>
    left.tournamentId = right.tournamentId → left.name ≠ right.name
  required : final.nameRequired = true ∧ final.identityChecked = false

theorem length_of_fitText {limit : Nat} {text stored : String}
    (hfit : fitText limit text = .ok stored) : stored.length ≤ limit := by
  rw [fitText] at hfit
  split at hfit
  · next hshort =>
      cases hfit
      exact hshort
  · split at hfit
    · cases hfit
      simp
    · cases hfit

/-- The row the first statement leaves. -/
def withAlias (players : PolledAliases) (row : RosterEntry P) :
    RosterEntry P :=
  { row with
    name := row.name.or ((polledLabel players row).bind fun label =>
      (fitText 64 label).toOption) }

/-- The row both statements leave. -/
def withName (players : PolledAliases) (row : RosterEntry P) : RosterEntry P :=
  { row with name := finalName players row }

section Rows

variable {players : PolledAliases} {row row' : RosterEntry P}

variable (players) in
/-- A row has a name, or a polled profile, or one that was never polled. -/
theorem identity_cases (hrow : row.profileId.isNone ≠ row.name.isNone) :
    (∃ name, row.name = some name) ∨
      ∃ profileId, row.name = none ∧ row.profileId = some profileId ∧
        ((∃ polled, players.find? profileId = some polled) ∨
          players.find? profileId = none) := by
  cases hname : row.name with
  | some name => exact Or.inl ⟨name, rfl⟩
  | none =>
      cases hprofile : row.profileId with
      | none => simp [hname, hprofile] at hrow
      | some profileId =>
          refine Or.inr ⟨profileId, rfl, rfl, ?_⟩
          cases hfind : players.find? profileId with
          | some polled => exact Or.inl ⟨polled, rfl⟩
          | none => exact Or.inr rfl

theorem storeName_ok {label : String} (hstore : storeName row label = .ok row') :
    row' = { row with name := (fitText 64 label).toOption } ∧
      (fitText 64 label).toOption.isSome := by
  obtain ⟨name, hfit, hrow⟩ := bind_eq_ok.mp hstore
  cases hrow
  rw [hfit]
  exact ⟨rfl, rfl⟩

theorem storeName_of_fits {label : String}
    (hfits : (fitText 64 label).toOption.isSome) :
    storeName row label =
      .ok { row with name := (fitText 64 label).toOption } := by
  rw [storeName]
  cases hfit : fitText 64 label with
  | error error => simp [hfit, Except.toOption] at hfits
  | ok name => rfl

variable (players) in
theorem kept_of_name {name : String} (hname : row.name = some name) :
    nameFromAlias players row = .ok row ∧ nameFromId row = .ok row ∧
      withAlias players row = row ∧ withName players row = row := by
  obtain ⟨id, tournamentId, profileId, stored, presentation⟩ := row
  cases hname
  refine ⟨rfl, ?_, rfl, rfl⟩
  cases profileId with
  | none => rfl
  | some profileId => rfl

theorem named_of_polled {profileId : Int} {polled : PolledAlias}
    (hname : row.name = none) (hprofile : row.profileId = some profileId)
    (hfind : players.find? profileId = some polled) :
    nameFromAlias players row = storeName row polled.aliasName ∧
      withAlias players row =
        { row with name := (fitText 64 polled.aliasName).toOption } ∧
      withName players row =
        { row with name := (fitText 64 polled.aliasName).toOption } := by
  simp [nameFromAlias, withAlias, withName, finalName, polledLabel,
    profileLabel, hname, hprofile, hfind]

/-- A row that was not polled is named by the second. -/
theorem named_of_unpolled {profileId : Int}
    (hname : row.name = none) (hprofile : row.profileId = some profileId)
    (hfind : players.find? profileId = none) :
    nameFromAlias players row = .ok row ∧
      nameFromId row = storeName row (syntheticLabel profileId) ∧
      withAlias players row = row ∧
      withName players row =
        { row with name := (fitText 64 (syntheticLabel profileId)).toOption } := by
  have hlabel : polledLabel players row = none := by
    simp [polledLabel, hname, hprofile, hfind]
  refine ⟨?_, ?_, ?_, ?_⟩
  · simp [nameFromAlias, hlabel]
  · simp [nameFromId, hname, hprofile]
  · simp [withAlias, hlabel]
  · simp [withName, finalName, profileLabel, hname, hprofile, hfind]

theorem nameFromId_of_isSome (hname : row.name.isSome) :
    nameFromId row = .ok row := by
  obtain ⟨name, hname⟩ := Option.isSome_iff_exists.mp hname
  exact (kept_of_name .empty hname).2.1

theorem named_of_ok (hrow : row.profileId.isNone ≠ row.name.isNone)
    {after : RosterEntry P} (halias : nameFromAlias players row = .ok row')
    (hid : nameFromId row' = .ok after) :
    row' = withAlias players row ∧ after = withName players row ∧
      after.name.isSome := by
  rcases identity_cases players hrow with
    ⟨name, hname⟩ | ⟨profileId, hname, hprofile, ⟨polled, hfind⟩ | hfind⟩
  · obtain ⟨hfirst, hsecond, hwith, hfinal⟩ := kept_of_name players hname
    cases hfirst.symm.trans halias
    cases hsecond.symm.trans hid
    exact ⟨hwith.symm, hfinal.symm, by rw [hname]; rfl⟩
  · obtain ⟨hfirst, hwith, hfinal⟩ := named_of_polled hname hprofile hfind
    obtain ⟨rfl, hsome⟩ := storeName_ok (hfirst.symm.trans halias)
    cases (nameFromId_of_isSome hsome).symm.trans hid
    exact ⟨hwith.symm, hfinal.symm, hsome⟩
  · obtain ⟨hfirst, hsecond, hwith, hfinal⟩ :=
      named_of_unpolled hname hprofile hfind
    cases hfirst.symm.trans halias
    obtain ⟨rfl, hsome⟩ := storeName_ok (hsecond.symm.trans hid)
    exact ⟨hwith.symm, hfinal.symm, hsome⟩

theorem ok_of_named (hrow : row.profileId.isNone ≠ row.name.isNone)
    (hsome : (finalName players row).isSome) :
    nameFromAlias players row = .ok (withAlias players row) ∧
      nameFromId (withAlias players row) = .ok (withName players row) := by
  have hnamed : (withName players row).name.isSome := hsome
  rcases identity_cases players hrow with
    ⟨name, hname⟩ | ⟨profileId, hname, hprofile, ⟨polled, hfind⟩ | hfind⟩
  · obtain ⟨hfirst, hsecond, hwith, hfinal⟩ := kept_of_name players hname
    rw [hwith, hfinal]
    exact ⟨hfirst, hsecond⟩
  · obtain ⟨hfirst, hwith, hfinal⟩ := named_of_polled hname hprofile hfind
    rw [hfinal] at hnamed
    rw [hfirst, hwith, hfinal]
    exact ⟨storeName_of_fits hnamed, nameFromId_of_isSome hnamed⟩
  · obtain ⟨hfirst, hsecond, hwith, hfinal⟩ :=
      named_of_unpolled hname hprofile hfind
    rw [hfinal] at hnamed
    rw [hwith, hfirst, hsecond, hfinal]
    exact ⟨rfl, storeName_of_fits hnamed⟩

theorem withAlias_name (hrow : row.profileId.isNone ≠ row.name.isNone)
    (hsome : (withAlias players row).name.isSome) :
    (withAlias players row).name = finalName players row := by
  rcases identity_cases players hrow with
    ⟨name, hname⟩ | ⟨profileId, hname, hprofile, ⟨polled, hfind⟩ | hfind⟩
  · obtain ⟨_, _, hwith, hfinal⟩ := kept_of_name players hname
    rw [hwith]
    exact (congrArg RosterEntry.name hfinal).symm
  · obtain ⟨_, hwith, hfinal⟩ := named_of_polled hname hprofile hfind
    rw [hwith]
    exact (congrArg RosterEntry.name hfinal).symm
  · obtain ⟨_, _, hwith, _⟩ := named_of_unpolled hname hprofile hfind
    rw [hwith, hname] at hsome
    cases hsome

theorem length_finalName (hfits : ∀ name ∈ row.name, name.length ≤ 64)
    {name : String} (hname : finalName players row = some name) :
    name.length ≤ 64 := by
  rcases Option.or_eq_some_iff.mp hname with hstored | ⟨_, hlabel⟩
  · exact hfits name hstored
  · obtain ⟨profileId, _, hfit⟩ := Option.bind_eq_some_iff.mp hlabel
    cases hok : fitText 64 (profileLabel players profileId) with
    | error error => rw [hok] at hfit; cases hfit
    | ok stored =>
        rw [hok] at hfit
        cases hfit
        exact length_of_fitText hok

end Rows

section Runs

variable {db : Migrating P}

theorem update_ok_iff {assign : RosterEntry P → Except PyError (RosterEntry P)}
    {after : Migrating P} :
    db.update assign = .ok after ↔
      ∃ rows, db.rows.mapM assign = .ok rows ∧ db.Admits rows ∧
        after = { db with rows := rows } := by
  rw [Migrating.update, bind_eq_ok]
  constructor
  · rintro ⟨rows, hrows, hafter⟩
    split at hafter
    · next hadmits =>
        cases hafter
        exact ⟨rows, hrows, hadmits, rfl⟩
    · cases hafter
  · rintro ⟨rows, hrows, hadmits, rfl⟩
    exact ⟨rows, hrows, if_pos hadmits⟩

/-- Rows in which every label has its place. -/
structure Nameable (players : PolledAliases) (rows : List (RosterEntry P)) :
    Prop where
  fits : ∀ row ∈ rows, (finalName players row).isSome
  distinct : NamesUnique (rows.map (withName players))

theorem namesUnique_withAlias {players : PolledAliases}
    {rows : List (RosterEntry P)} (hidentity : OneIdentity rows)
    (hnameable : Nameable players rows) :
    NamesUnique (rows.map (withAlias players)) := by
  obtain ⟨hfits, hdistinct⟩ := hnameable
  rw [NamesUnique, List.pairwise_map] at hdistinct ⊢
  refine hdistinct.imp_of_mem ?_
  intro left right hleft hright hdiffer htournament hsome heq
  have hleftName := withAlias_name (hidentity left hleft) hsome
  have hrightName := withAlias_name (hidentity right hright) (heq ▸ hsome)
  exact hdiffer htournament (hfits left hleft)
    (hleftName.symm.trans (heq.trans hrightName))

variable (db) in
/-- With the check gone, the backfill goes through exactly where the labels
fit and differ, and names every row. -/
theorem backfill_ok_iff (hidentity : OneIdentity db.rows)
    (hunchecked : db.identityChecked = false)
    (hnullable : db.nameRequired = false) {after : Migrating P} :
    db.backfill = .ok after ↔
      Nameable db.players db.rows ∧
        after = { db with rows := db.rows.map (withName db.players) } := by
  have hadmits : ∀ rows, db.Admits rows ↔ NamesUnique rows := by
    intro rows
    simp [Migrating.Admits, hunchecked, hnullable]
  rw [Migrating.backfill, bind_eq_ok]
  constructor
  · rintro ⟨middle, hfirst, hsecond⟩
    obtain ⟨rows₁, hrows₁, _, rfl⟩ := update_ok_iff.mp hfirst
    obtain ⟨rows₂, hrows₂, hadmitted, rfl⟩ := update_ok_iff.mp hsecond
    have hboth := mapM_then hrows₁ hrows₂
    have hnamed : ∀ row ∈ db.rows, ∀ after,
        (nameFromAlias db.players row >>= nameFromId) = .ok after →
          after = withName db.players row ∧ after.name.isSome := by
      intro row hrow after hafter
      obtain ⟨row', halias, hid⟩ := bind_eq_ok.mp hafter
      exact (named_of_ok (hidentity row hrow) halias hid).2
    have hall : rows₂ = db.rows.map (withName db.players) :=
      eq_map_of_mapM hboth fun row hrow after hafter =>
        (hnamed row hrow after hafter).1
    refine ⟨⟨?_, ?_⟩, by rw [hall]⟩
    · intro row hrow
      obtain ⟨after, _, hafter⟩ := mem_of_mapM hboth hrow
      obtain ⟨rfl, hsome⟩ := hnamed row hrow after hafter
      exact hsome
    · exact hall ▸ (hadmits rows₂).mp hadmitted
  · rintro ⟨⟨hfits, hdistinct⟩, rfl⟩
    have hok : ∀ row ∈ db.rows, _ := fun row hrow =>
      ok_of_named (hidentity row hrow) (hfits row hrow)
    have hrows₁ := mapM_of_forall fun row hrow => (hok row hrow).1
    have hrows₂ : (db.rows.map (withAlias db.players)).mapM nameFromId =
        .ok (db.rows.map (withName db.players)) := by
      rw [mapM_eq_ok, List.forall₂_map_left_iff, List.forall₂_map_right_iff,
        List.forall₂_same]
      exact fun row hrow => (hok row hrow).2
    have hmiddle := namesUnique_withAlias hidentity ⟨hfits, hdistinct⟩
    exact ⟨_, update_ok_iff.mpr ⟨_, hrows₁, (hadmits _).mpr hmiddle, rfl⟩,
      update_ok_iff.mpr ⟨_, hrows₂, (hadmits _).mpr hdistinct, rfl⟩⟩

variable (db) in
theorem backfill_of_named (hnamed : AllNamed db.rows)
    (hadmits : db.Admits db.rows) : db.backfill = .ok db := by
  have hkept : ∀ row ∈ db.rows, nameFromAlias db.players row = .ok row ∧
      nameFromId row = .ok row := by
    intro row hrow
    obtain ⟨name, hname⟩ := Option.isSome_iff_exists.mp (hnamed row hrow)
    obtain ⟨halias, hid, _⟩ := kept_of_name db.players hname
    exact ⟨halias, hid⟩
  have hrows₁ : db.rows.mapM (nameFromAlias db.players) = .ok db.rows := by
    rw [mapM_eq_ok, List.forall₂_same]
    exact fun row hrow => (hkept row hrow).1
  have hrows₂ : db.rows.mapM nameFromId = .ok db.rows := by
    rw [mapM_eq_ok, List.forall₂_same]
    exact fun row hrow => (hkept row hrow).2
  rw [Migrating.backfill, bind_eq_ok]
  exact ⟨db, update_ok_iff.mpr ⟨_, hrows₁, hadmits, rfl⟩,
    update_ok_iff.mpr ⟨_, hrows₂, hadmits, rfl⟩⟩

end Runs

/-- The table both upgrades leave. -/
def Baseline.final (db : Baseline P) : Migrating P where
  rows := db.rows.map (withName db.players)
  players := db.players
  identityChecked := false
  nameRequired := true

theorem nameable_iff (db : Baseline P) :
    Nameable db.players db.rows ↔ db.Backfillable := by
  constructor
  · rintro ⟨hfits, hdistinct⟩
    refine ⟨hfits, ?_⟩
    rw [NamesUnique, List.pairwise_map] at hdistinct
    refine hdistinct.imp_of_mem ?_
    intro left right hleft _ hdiffer htournament
    exact hdiffer htournament (hfits left hleft)
  · rintro ⟨hfits, hdistinct⟩
    refine ⟨hfits, ?_⟩
    rw [NamesUnique, List.pairwise_map]
    exact hdistinct.imp fun hdiffer htournament _ => hdiffer htournament

/-- The first upgrade goes through on its own condition, and fills in all. -/
theorem upgradeExpand_ok_iff (db : Baseline P) {middle : Migrating P} :
    upgradeExpand db.start = .ok middle ↔
      db.Backfillable ∧ middle =
        { db.start with
          identityChecked := false
          rows := db.rows.map (withName db.players) } := by
  rw [← nameable_iff]
  exact backfill_ok_iff { db.start with identityChecked := false }
    db.oneIdentity rfl rfl

theorem upgrade_ok_iff (db : Baseline P) {final : Migrating P} :
    db.upgrade = .ok final ↔ db.Backfillable ∧ final = db.final := by
  have hcontract : db.Backfillable →
      upgradeContract { db.start with
        identityChecked := false
        rows := db.rows.map (withName db.players) } = .ok db.final := by
    intro hfill
    have hnamed : AllNamed (db.rows.map (withName db.players)) := by
      intro row hrow
      obtain ⟨before, hbefore, rfl⟩ := List.mem_map.mp hrow
      exact hfill.fits before hbefore
    have hunique := ((nameable_iff db).mpr hfill).distinct
    have hkept := backfill_of_named { db.start with
      identityChecked := false
      rows := db.rows.map (withName db.players) } hnamed
      ⟨hunique, by simp, by simp [Baseline.start]⟩
    rw [upgradeContract, hkept]
    exact if_pos hnamed
  rw [Baseline.upgrade, bind_eq_ok]
  constructor
  · rintro ⟨middle, hfirst, hsecond⟩
    obtain ⟨hfill, rfl⟩ := (upgradeExpand_ok_iff db).mp hfirst
    rw [hcontract hfill] at hsecond
    exact ⟨hfill, (Except.ok.inj hsecond).symm⟩
  · rintro ⟨hfill, rfl⟩
    exact ⟨_, (upgradeExpand_ok_iff db).mpr ⟨hfill, rfl⟩, hcontract hfill⟩

theorem upgradeExpand_fails {db : Baseline P} (hnot : ¬ db.Backfillable) :
    ∃ error, upgradeExpand db.start = .error error ∧
      doRunMigrations upgradeExpand db.start = (db.start, .error error) := by
  cases hexpand : upgradeExpand db.start with
  | ok middle => exact absurd ((upgradeExpand_ok_iff db).mp hexpand).1 hnot
  | error error =>
      refine ⟨error, rfl, ?_⟩
      rw [doRunMigrations, hexpand]

theorem backfilled_final {db : Baseline P} (hfill : db.Backfillable) :
    db.Backfilled db.final := by
  refine ⟨?_, ?_, ?_, rfl, rfl⟩
  · rw [Baseline.final, List.forall₂_map_right_iff, List.forall₂_same]
    intro row hrow
    refine ⟨rfl, rfl, rfl, rfl, fun hplaceholder => ?_⟩
    simp [withName, finalName, hplaceholder]
  · intro row hrow
    obtain ⟨before, hbefore, rfl⟩ := List.mem_map.mp hrow
    obtain ⟨name, hname⟩ := Option.isSome_iff_exists.mp (hfill.fits before hbefore)
    exact ⟨name, hname, length_finalName (db.fits before hbefore) hname⟩
  · rw [Baseline.final, List.pairwise_map]
    exact hfill.distinct

/-- The upgrades complete exactly where the labels fit and differ, and where
they do, every row keeps its identity and has a name of its own.  Elsewhere the
first of them fails, and the database stays as it was. -/
theorem name_backfill_completes_iff (db : Baseline P) :
    ((∃ final, db.upgrade = .ok final) ↔ db.Backfillable) ∧
      (∀ final, db.upgrade = .ok final → db.Backfilled final) ∧
      (¬ db.Backfillable → ∃ error,
        upgradeExpand db.start = .error error ∧
          doRunMigrations upgradeExpand db.start =
            (db.start, .error error)) := by
  refine ⟨⟨?_, ?_⟩, ?_, upgradeExpand_fails⟩
  · rintro ⟨final, hfinal⟩
    exact ((upgrade_ok_iff db).mp hfinal).1
  · intro hfill
    exact ⟨db.final, (upgrade_ok_iff db).mpr ⟨hfill, rfl⟩⟩
  · intro final hfinal
    obtain ⟨hfill, rfl⟩ := (upgrade_ok_iff db).mp hfinal
    exact backfilled_final hfill

namespace BackfillWitness

/-- Two linked entrants of one tournament whose players share an alias. -/
def namesakes : Baseline Unit where
  rows := [⟨1, 1, some 10, none, ()⟩, ⟨2, 1, some 11, none, ()⟩]
  players := ⟨[⟨10, "Viper"⟩, ⟨11, "Viper"⟩], by decide⟩
  ids := by decide
  profilesUnique := by decide
  namesUnique := by decide
  oneIdentity := by decide
  fits := by simp

end BackfillWitness

open BackfillWitness in
/-- Two aliases that are the same fail the first upgrade. -/
theorem name_backfill_namesakes :
    upgradeExpand namesakes.start = .error .integrityError ∧
      ¬ ∃ final, namesakes.upgrade = .ok final ∧ namesakes.Backfilled final := by
  have hfails : upgradeExpand namesakes.start = .error .integrityError := by
    rfl
  refine ⟨hfails, ?_⟩
  rintro ⟨final, hfinal, _⟩
  rw [Baseline.upgrade, hfails] at hfinal
  cases hfinal

end LiveStandings
