import Mathlib.Data.List.Nodup
import Courier.Proofs.Outcome
import Courier.Proofs.Tenant.Resolver
import Courier.Repository.Postgres
/-
What the lookups of a token come to, given what the tables of the database hold. The application
is read from its own row. The user is read together with all applications of that user, so one row
that cannot be read makes a failure of the store of every lookup by which a message comes in for
that user, although the flags and the key are all that is wanted of the user there.
-/

namespace Courier.Postgres

/-! ## Tables -/

/-- A row of the table of users. -/
structure UserRecord where
  id : Int
  key : String
  /-- The column that tells whether the user is enabled. -/
  enable : Cell

/-- A row of the table of applications. -/
structure ApplicationRecord where
  /-- The id of the user. -/
  user : Int
  created : Int
  token : String
  /-- The other columns that make up an application, whatever they hold. -/
  columns : Row

def UserRecord.row (u : UserRecord) : Row := [.text u.key, u.enable]

def ApplicationRecord.row (a : ApplicationRecord) : Row := .text a.token :: a.columns

/-- What a database holds of users and applications. -/
structure Tables where
  users : List UserRecord
  applications : List ApplicationRecord
  /-- Whether a text comes before another one, or is the same, as the database orders texts. -/
  upTo : String → String → Bool
  /-- The replies to statements that are not about users and applications alone. -/
  other : Statement → Except Error Reply

namespace Tables

variable {t : Tables} {u : UserRecord} {a b : ApplicationRecord}

/-- Users side by side with their applications. -/
def joined (t : Tables) : List (UserRecord × ApplicationRecord) :=
  (t.users.product t.applications).filter fun j => j.2.user = j.1.id

/-- The older application comes first, and of two of one age the one with the lesser token. -/
def comesFirst (t : Tables) (a b : ApplicationRecord) : Bool :=
  a.created < b.created || (a.created == b.created && t.upTo a.token b.token)

/-- The applications of the user with a key, in their order. -/
def applicationsOf (t : Tables) (key : String) : List ApplicationRecord :=
  ((t.joined.filter fun j => j.1.key = key).map (·.2)).mergeSort t.comesFirst

/-- What the database replies to a statement. -/
def replyTo (t : Tables) : Statement → Except Error Reply
  | .userOf token => .ok (.rows ((t.joined.filter fun j => j.2.token = token).map (·.1.row)))
  | .applicationsOf key => .ok (.rows ((t.applicationsOf key).map (·.row)))
  | .application token key => .ok (.rows ((t.joined.filter fun j => j.2.token = token ∧ j.1.key = key).map (·.2.row)))
  | s => t.other s

def answer (t : Tables) : (c : Call) → c.Answer
  | .connect => .ok ()
  | .run s => t.replyTo s
  | .close => ()

/-- What a course of questions to the database comes to. -/
def conduct {α : Type} (t : Tables) (p : Calls α) : α := p.run (m := Id) t.answer

/-- Whether ids, keys and tokens are unique. -/
structure Keyed (t : Tables) : Prop where
  ids : (t.users.map (·.id)).Nodup
  keys : (t.users.map (·.key)).Nodup
  tokens : (t.applications.map (·.token)).Nodup

/-- Whether a token is that of an application of a user. -/
structure Owns (t : Tables) (u : UserRecord) (a : ApplicationRecord) : Prop where
  user : u ∈ t.users
  application : a ∈ t.applications
  owner : a.user = u.id

theorem mem_joined {j : UserRecord × ApplicationRecord} : j ∈ t.joined ↔ t.Owns j.1 j.2 := by
  obtain ⟨u, a⟩ := j
  simp only [joined, List.mem_filter, List.pair_mem_product, decide_eq_true_eq]
  exact ⟨fun ⟨⟨hu, ha⟩, howner⟩ => ⟨hu, ha, howner⟩, fun h => ⟨⟨h.user, h.application⟩, h.owner⟩⟩

namespace Keyed

theorem nodup_joined (ht : t.Keyed) : t.joined.Nodup :=
  ((ht.ids.of_map _).product (ht.tokens.of_map _)).filter _

/-- One user and one application belong to a token. -/
theorem owns_unique (ht : t.Keyed) (h : t.Owns u a) {v : UserRecord} (h' : t.Owns v b) (htoken : b.token = a.token) :
    v = u ∧ b = a := by
  obtain rfl : b = a := List.inj_on_of_nodup_map ht.tokens h'.application h.application htoken
  exact ⟨List.inj_on_of_nodup_map ht.ids h'.user h.user (h'.owner.symm.trans h.owner), rfl⟩

/-- Of what a condition selects there is one if it selects the token. -/
theorem filter_joined (ht : t.Keyed) (h : t.Owns u a) {p : UserRecord × ApplicationRecord → Bool} (hp : p (u, a) = true)
    (htoken : ∀ j, p j = true → j.2.token = a.token) : t.joined.filter p = [(u, a)] := by
  rw [← List.perm_singleton, List.perm_ext_iff_of_nodup (ht.nodup_joined.filter _) (List.nodup_singleton _)]
  intro j
  rw [List.mem_filter, mem_joined, List.mem_singleton]
  refine ⟨fun ⟨hj, hpj⟩ => ?_, fun hj => hj ▸ ⟨h, hp⟩⟩
  obtain ⟨hu, ha⟩ := ht.owns_unique h hj (htoken j hpj)
  exact Prod.ext hu ha

theorem mem_applicationsOf (ht : t.Keyed) (hu : u ∈ t.users) : b ∈ t.applicationsOf u.key ↔ t.Owns u b := by
  simp only [applicationsOf, List.mem_mergeSort, List.mem_map, List.mem_filter, mem_joined, decide_eq_true_eq]
  constructor
  · rintro ⟨⟨v, b⟩, ⟨hj, hkey⟩, rfl⟩
    obtain rfl : v = u := List.inj_on_of_nodup_map ht.keys hj.user hu hkey
    exact hj
  · exact fun h => ⟨(u, b), ⟨h, rfl⟩, rfl⟩

end Keyed
end Tables
end Courier.Postgres

namespace Courier.PostgresRepository

open Postgres (Statement Row RowReader Calls Tables UserRecord ApplicationRecord)

variable {t : Tables} {u : UserRecord} {a : ApplicationRecord} {app : Application} {enable : Bool}

/-- What the store answers when it has these tables. -/
def ask (t : Tables) (c : RepositoryCall) : c.Answer := t.conduct (answer c)

/-- What a token leads to on the way in, with a store that answers in time. -/
def byToken (t : Tables) (limit : Duration) (token : String) (viaSubmit : Bool) :
    Except ResolveError (User × Application) :=
  (Resolver.byToken limit token viaSubmit).run (m := Id) fun c => some (ask t c)

/-- Whether a row holds an application. -/
def Holds (row : Row) (app : Application) : Prop := Postgres.applicationRow.read row = .ok (.ok app)

/-- Whether all that is in a row can be read. -/
def isReadable (row : Row) : Bool :=
  match Postgres.applicationRow.read row with
  | .ok (.ok _) => true
  | _ => false

theorem isReadable_iff {row : Row} : isReadable row = true ↔ ∃ app, Holds row app := by
  unfold isReadable Holds
  split
  · next app h => exact ⟨fun _ => ⟨app, h⟩, fun _ => rfl⟩
  · next hno => exact ⟨nofun, fun ⟨app, h⟩ => absurd h (hno app)⟩

/-! ## Reading rows -/

/-- The applications that are read from rows. -/
def readAll (rows : List Row) : Except RepositoryError (List Application) :=
  ((rows.mapM Postgres.applicationRow.read).mapError .database).bind (·.mapM stored)

theorem stored_ok {x : Except String Application} : stored x = .ok app ↔ x = .ok app :=
  ⟨ok_of_mapError, fun h => by rw [h]; rfl⟩

/-- All rows are read if each is. -/
theorem readAll_ok {rows : List Row} {apps : List Application} :
    readAll rows = .ok apps ↔ List.Forall₂ Holds rows apps := by
  have hholds : List.Forall₂ Holds rows apps ↔ rows.mapM Postgres.applicationRow.read = .ok (apps.map .ok) := by
    rw [mapM_ok, List.forall₂_map_right_iff]
    rfl
  have hstored {found : List (Except String Application)} : found.mapM stored = .ok apps ↔ found = apps.map .ok := by
    simp only [mapM_ok, stored_ok]
    rw [← List.forall₂_map_right_iff, List.forall₂_eq_eq_eq]
  rw [hholds]
  constructor
  · intro h
    obtain ⟨found, hfound, h⟩ := bind_ok.1 h
    rw [ok_of_mapError hfound, hstored.1 h]
  · intro h
    rw [readAll, h]
    exact hstored.2 rfl

/-- What cannot be read is not taken for missing. -/
theorem readAll_error {rows : List Row} {e : RepositoryError} (h : readAll rows = .error e) : e ≠ .notFound := by
  rintro rfl
  rcases bind_error.1 h with h | ⟨found, -, h⟩
  · obtain ⟨_, -, he⟩ := error_of_mapError h
    cases he
  · obtain ⟨x, -, hx⟩ := mem_of_mapM_error h
    obtain ⟨_, -, he⟩ := error_of_mapError hx
    cases he

theorem readAll_isOk_iff (rows : List Row) : (∃ apps, readAll rows = .ok apps) ↔ ∀ row ∈ rows, isReadable row = true := by
  simp only [readAll_ok, isReadable_iff]
  induction rows with
  | nil => exact ⟨fun _ => nofun, fun _ => ⟨[], .nil⟩⟩
  | cons row rows ih =>
    rw [List.forall_mem_cons, ← ih]
    constructor
    · rintro ⟨_, hall⟩
      cases hall with
      | cons hrow hrows => exact ⟨⟨_, hrow⟩, ⟨_, hrows⟩⟩
    · rintro ⟨⟨app, hrow⟩, ⟨apps, hrows⟩⟩
      exact ⟨app :: apps, .cons hrow hrows⟩

/-! ## Statements -/

theorem conduct_bind {α β : Type} (p : Calls α) (f : α → Calls β) : t.conduct (p.bind f) = t.conduct (f (t.conduct p)) := by
  induction p with
  | result a => rfl
  | ask q next ih => exact ih _

/-- The first row is read if there is one. -/
theorem conduct_first {α : Type} {s : Statement} {reader : RowReader α} {row : Row} {rows : List Row}
    (h : t.replyTo s = .ok (.rows (row :: rows))) : t.conduct (first s reader) = (reader.read row).mapError .database := by
  show ((t.replyTo s).mapError RepositoryError.database).bind _ = _
  rw [h]
  rfl

theorem conduct_applicationsOf {key : String} :
    t.conduct (applicationsOf key) = readAll ((t.applicationsOf key).map (·.row)) := rfl

/-! ## The lookups of a token -/

/-- The application of a token is read from its own row, whatever the other rows hold. -/
theorem ask_application (ht : t.Keyed) (h : t.Owns u a) (happ : Holds a.row app) :
    ask t (.application u.key a.token) = .ok app := by
  have hrows : t.replyTo (.application a.token u.key) = .ok (.rows [a.row]) := by
    rw [Tables.replyTo, ht.filter_joined h (by simp) fun j hj => (by simpa using hj : _ ∧ _).1]
    rfl
  refine (conduct_bind (first (.application a.token u.key) Postgres.applicationRow) _).trans ?_
  rw [conduct_first hrows, happ]
  rfl

/-- The user of a token is read from its own row, and from those of all its applications. -/
theorem ask_userOf (ht : t.Keyed) (h : t.Owns u a) (huser : Postgres.userRow.read u.row = .ok (u.key, enable)) :
    ask t (.userOf a.token) = (readAll ((t.applicationsOf u.key).map (·.row))).map fun applications =>
      { key := u.key, enable, applications } := by
  have hrows : t.replyTo (.userOf a.token) = .ok (.rows [u.row]) := by
    rw [Tables.replyTo, ht.filter_joined h (by simp) fun j hj => by simpa using hj]
    rfl
  refine (conduct_bind (first (.userOf a.token) Postgres.userRow) _).trans ?_
  rw [conduct_first hrows, huser]
  refine (conduct_bind (applicationsOf u.key) _).trans ?_
  rw [conduct_applicationsOf]
  rfl

/-- The applications of a user are read if each row of them can be read. -/
theorem readAll_applicationsOf_iff (ht : t.Keyed) (hu : u ∈ t.users) :
    (∃ applications, readAll ((t.applicationsOf u.key).map (·.row)) = .ok applications) ↔
      ∀ b, t.Owns u b → isReadable b.row = true := by
  simp only [readAll_isOk_iff, List.forall_mem_map, ht.mem_applicationsOf hu]

/-- The user of a token is found if each row of an application of that user can be read. -/
theorem ask_userOf_iff (ht : t.Keyed) (h : t.Owns u a) (huser : Postgres.userRow.read u.row = .ok (u.key, enable)) :
    (∃ user, ask t (.userOf a.token) = .ok user) ↔ ∀ b, t.Owns u b → isReadable b.row = true := by
  rw [ask_userOf ht h huser, ← readAll_applicationsOf_iff ht h.user]
  constructor
  · rintro ⟨user, huser⟩
    obtain ⟨applications, happlications, -⟩ := ok_of_map huser
    exact ⟨applications, happlications⟩
  · rintro ⟨applications, happlications⟩
    exact ⟨_, by rw [happlications]; rfl⟩

/-- What a token leads to on the way in hangs on all rows of applications of its user. -/
theorem byToken_eq (ht : t.Keyed) (h : t.Owns u a) (huser : Postgres.userRow.read u.row = .ok (u.key, enable))
    (happ : Holds a.row app) (limit : Duration) (viaSubmit : Bool) :
    byToken t limit a.token viaSubmit =
      match readAll ((t.applicationsOf u.key).map (·.row)) with
      | .error e => .error (.repository e)
      | .ok applications =>
        if !enable && !viaSubmit then .error .userNotFound
        else if !app.enable && !viaSubmit then .error .applicationNotFound
        else .ok ({ key := u.key, enable, applications }, app) := by
  rw [byToken, Resolver.run_byToken, ask_userOf ht h huser]
  cases hall : readAll ((t.applicationsOf u.key).map (·.row)) with
  | error e => simp only [Except.map, Resolver.found_failure (readAll_error hall)]
  | ok applications =>
    show (if !enable && !viaSubmit then _ else _) = _
    dsimp only
    rw [ask_application ht h happ]
    rfl

/-- The store fails at what is asked on the way in if a row of an application of the user cannot be read. -/
theorem byToken_fails_iff (ht : t.Keyed) (h : t.Owns u a)
    (huser : Postgres.userRow.read u.row = .ok (u.key, enable)) (happ : Holds a.row app) (limit : Duration)
    (viaSubmit : Bool) :
    (∃ e, byToken t limit a.token viaSubmit = .error (.repository e)) ↔ ∃ b, t.Owns u b ∧ isReadable b.row = false := by
  have hnone := not_congr (readAll_applicationsOf_iff ht h.user)
  push Not at hnone
  simp only [ne_eq, Bool.not_eq_true] at hnone
  rw [byToken_eq ht h huser happ, ← hnone]
  cases readAll ((t.applicationsOf u.key).map (·.row)) with
  | error e => exact iff_of_true ⟨e, rfl⟩ fun _ => nofun
  | ok applications =>
    refine iff_of_false ?_ fun hno => hno applications rfl
    rintro ⟨e, he⟩
    dsimp only at he
    split_ifs at he <;> cases he

/-- **One row that cannot be read makes a failure of every lookup by which a message comes in for its user.** The
application of a token is found by its own row. The user of the token, and so what the token leads to on the way in,
is found only if all rows of applications of that user can be read; then it is the user and the application that
their own rows tell of. -/
theorem lookups_of_token (ht : t.Keyed) (h : t.Owns u a) (huser : Postgres.userRow.read u.row = .ok (u.key, enable))
    (happ : Holds a.row app) (limit : Duration) (viaSubmit : Bool) :
    ask t (.application u.key a.token) = .ok app ∧
      ((∃ user, ask t (.userOf a.token) = .ok user) ↔ ∀ b, t.Owns u b → isReadable b.row = true) ∧
      ((∃ e, byToken t limit a.token viaSubmit = .error (.repository e)) ↔ ∃ b, t.Owns u b ∧ isReadable b.row = false) ∧
      ((∀ b, t.Owns u b → isReadable b.row = true) → viaSubmit = true ∨ enable = true ∧ app.enable = true →
        ∃ applications, byToken t limit a.token viaSubmit = .ok ({ key := u.key, enable, applications }, app)) := by
  refine ⟨ask_application ht h happ, ask_userOf_iff ht h huser, byToken_fails_iff ht h huser happ limit viaSubmit, ?_⟩
  intro hall henable
  obtain ⟨applications, hread⟩ := (readAll_applicationsOf_iff ht h.user).2 hall
  refine ⟨applications, ?_⟩
  rw [byToken_eq ht h huser happ, hread]
  rcases henable with rfl | ⟨rfl, henable⟩
  · simp
  · simp [henable]

/-! ## A row that is no application -/

/-- An application whose fields are taken from the places that a text tells. -/
def kept (token customFormat : String) : ApplicationRecord :=
  ⟨1, 0, token, [.flag true, .text "", .null, .text "custom", .text customFormat, .text "none", .texts [], .flag false,
    .flag false, .flag false, .text "t", .text "\x7b\x7d"]⟩

def sound : ApplicationRecord := kept "tok" "\x7b\x7d"

/-- The place of the title is given by a number. -/
def spoiled : ApplicationRecord := kept "sibling" "\x7b\"title\":5\x7d"

def sampleUser : UserRecord := ⟨1, "u", .flag true⟩

/-- One user with two applications. -/
def sample : Tables where
  users := [sampleUser]
  applications := [sound, spoiled]
  upTo a b := a ≤ b
  other _ := .ok (.rows [])

theorem sample_keyed : sample.Keyed where
  ids := by decide
  keys := by decide
  tokens := by decide

theorem owns_sound : sample.Owns sampleUser sound where
  user := List.mem_singleton_self _
  application := List.mem_cons_self
  owner := rfl

theorem owns_spoiled : sample.Owns sampleUser spoiled where
  user := List.mem_singleton_self _
  application := List.mem_cons_of_mem _ (List.mem_singleton_self _)
  owner := rfl

theorem sound_isReadable : isReadable sound.row = true := by decide +kernel

theorem spoiled_not_isReadable : isReadable spoiled.row = false := by decide +kernel

theorem sample_lookups_of_token :
    (∃ app, ask sample (.application "u" "tok") = .ok app) ∧
      ∃ e, byToken sample (.ofSeconds 5) "tok" false = .error (.repository e) := by
  obtain ⟨app, happ⟩ := isReadable_iff.1 sound_isReadable
  have h := lookups_of_token sample_keyed owns_sound rfl happ (.ofSeconds 5) false
  exact ⟨⟨app, h.1⟩, h.2.2.1.2 ⟨spoiled, owns_spoiled, spoiled_not_isReadable⟩⟩

/-- A user whose row and whose application can be read is not always found. -/
theorem not_always_found :
    ¬ ∀ (t : Tables) (u : UserRecord) (a : ApplicationRecord) (enable : Bool) (app : Application), t.Keyed → t.Owns u a →
      Postgres.userRow.read u.row = .ok (u.key, enable) → Holds a.row app → ∃ user, ask t (.userOf a.token) = .ok user := by
  intro hfound
  obtain ⟨app, happ⟩ := isReadable_iff.1 sound_isReadable
  have huser := hfound sample sampleUser sound true app sample_keyed owns_sound rfl happ
  have hall := (ask_userOf_iff sample_keyed owns_sound rfl).1 huser
  have hspoiled := spoiled_not_isReadable
  rw [hall spoiled owns_spoiled] at hspoiled
  cases hspoiled

end Courier.PostgresRepository
