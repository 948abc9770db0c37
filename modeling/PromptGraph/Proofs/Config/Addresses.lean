import PromptGraph.Config.Settings
import PromptGraph.Proofs.Number.Integers
import PromptGraph.Proofs.Text.Delimiters

/-!
# `Proofs.Config.Addresses` — what a database address tells of its parts

An address is joined from its parts as they are, and its delimiters are not escaped in them. So an address tells its
parts only up to the places of its delimiters: of the colon before the password, of the port between its two, and of
the at sign. A password may hold any of them where the user has no colon and host and database are ordinary names.

## Contents
- **Parts.** `Settings.BuildsFrom`: the parts that settings give, with the defaults; `buildsFrom_iff`.
- **Texts.** `login`, `place`: an address before its at sign and behind it; `text_eq`.
- **Delimiters.** `ColonMoves`, `PortMoves`, `SignMoves`, and `login_eq_iff`, `place_eq_iff`, `text_eq_iff`.
- **Addresses.** `IsPlain`; `database_address_tells_parts`, and `colon_in_user_is_lost`.
-/

namespace PromptGraph

/-! ## Parts -/

/-- A setting has a value: the given one, or a default where none or an empty one is given. -/
def Takes {α : Type} (given : Option α) (empty default value : α) : Prop :=
  (given = some value ∧ value ≠ empty) ∨ ((given = none ∨ given = some empty) ∧ value = default)

/-- The address of settings is built from parts: none is given, host and database are given, and the other parts are
    given or have their defaults. -/
structure Settings.BuildsFrom (s : Settings) (p : DsnParts) : Prop where
  unset : s.dsn = ""
  host : s.databaseHost = some p.host ∧ p.host ≠ ""
  database : s.database = some p.database ∧ p.database ≠ ""
  user : Takes s.databaseUser "" "postgres" p.user
  password : Takes s.databasePassword "" "" p.password
  port : Takes s.databasePort 0 5432 p.port

theorem takes_some_of_ne {α : Type} {a empty default value : α} (ha : a ≠ empty) :
    Takes (some a) empty default value ↔ a = value := by
  constructor
  · rintro (⟨hvalue, -⟩ | ⟨hnone | hempty, -⟩)
    · exact Option.some.inj hvalue
    · cases hnone
    · exact absurd (Option.some.inj hempty) ha
  · rintro rfl
    exact Or.inl ⟨rfl, ha⟩

theorem filter_getD_eq_iff {α : Type} [DecidableEq α] {given : Option α} {empty default value : α} :
    (given.filter (· ≠ empty)).getD default = value ↔ Takes given empty default value := by
  cases given with
  | none => simp [Takes, eq_comm]
  | some a =>
      by_cases ha : a = empty
      · simp [Option.filter_some, Takes, ha, eq_comm]
      · simp [Option.filter_some, takes_some_of_ne ha, ha]

theorem getD_filter_ne (given : Option String) : (given.filter (· ≠ "")).getD "" = given.getD "" := by
  cases given with
  | none => simp
  | some a => by_cases ha : a = "" <;> simp [Option.filter_some, ha]

theorem filled_eq_some_iff {given : Option String} {value : String} :
    Settings.filled given = some value ↔ given = some value ∧ value ≠ "" := by
  simp [Settings.filled, Option.filter_eq_some_iff]

theorem buildsFrom_iff {s : Settings} {p : DsnParts} : s.BuildsFrom p ↔ s.dsn = "" ∧ s.dsnParts? = some p := by
  have hpassword := getD_filter_ne s.databasePassword
  constructor
  · rintro ⟨hunset, hhost, hdatabase, huser, hpass, hport⟩
    refine ⟨hunset, ?_⟩
    rw [← filled_eq_some_iff] at hhost hdatabase
    rw [← filter_getD_eq_iff] at huser hpass hport
    rw [hpassword] at hpass
    rw [Settings.dsnParts?, hhost, hdatabase, Settings.filled, huser, hpass, hport]
    rfl
  · rintro ⟨hunset, hparts⟩
    simp only [Settings.dsnParts?, Option.bind_eq_bind, Option.bind_eq_some_iff, Option.pure_def, Option.some.injEq] at hparts
    obtain ⟨host, hhost, database, hdatabase, rfl⟩ := hparts
    exact ⟨hunset, filled_eq_some_iff.mp hhost, filled_eq_some_iff.mp hdatabase, filter_getD_eq_iff.mp rfl,
      filter_getD_eq_iff.mp hpassword, filter_getD_eq_iff.mp rfl⟩

namespace DsnParts

variable {p q : DsnParts}

/-! ## Texts -/

/-- The password of an address behind its colon; an empty one is left out. -/
def secret (p : DsnParts) : String := if p.password = "" then "" else ":" ++ p.password

/-- What stands before the at sign of an address. -/
def login (p : DsnParts) : String := p.user ++ p.secret

/-- The port of an address between its delimiters. -/
def gate (p : DsnParts) : String := ":" ++ NumberLayout.integer p.port ++ "/"

/-- What stands behind the at sign of an address. -/
def place (p : DsnParts) : String := p.host ++ p.gate ++ p.database

theorem text_eq (p : DsnParts) : p.text = "postgresql://" ++ (p.login ++ "@" ++ p.place) := by
  unfold DsnParts.text login secret place gate
  simp only [String.append_assoc]

theorem login_of_empty (h : p.password = "") : p.login = p.user := by
  simp [login, secret, h]

theorem login_of_filled (h : p.password ≠ "") : p.login = p.user ++ ":" ++ p.password := by
  simp [login, secret, h, String.append_assoc]

theorem place_eq (p : DsnParts) :
    p.place = p.host ++ ":" ++ (NumberLayout.integer p.port ++ "/" ++ p.database) := by
  simp only [place, gate, String.append_assoc]

/-! ## Delimiters -/

/-- A colon in the second user stands where the first password begins. -/
def ColonMoves (p q : DsnParts) : Prop :=
  ∃ m, q.user = p.user ++ ":" ++ m ∧ p.password = m ++ q.secret ∧ p.password ≠ ""

/-- The first port stands inside the second host, and the second one inside the first database. -/
def PortMoves (p q : DsnParts) : Prop :=
  ∃ m, q.host = p.host ++ p.gate ++ m ∧ p.database = m ++ q.gate ++ q.database

/-- The first at sign stands inside the second login, and the second one behind it. -/
def SignMoves (p q : DsnParts) : Prop := Moves "@" p.login p.place q.login q.place

/-- User and password are the same, or the colon between them moves. -/
def SameLogin (p q : DsnParts) : Prop :=
  (p.user = q.user ∧ p.password = q.password) ∨ ColonMoves p q ∨ ColonMoves q p

/-- Host, port and database are the same, or the port moves. -/
def SamePlace (p q : DsnParts) : Prop :=
  (p.host = q.host ∧ p.port = q.port ∧ p.database = q.database) ∨ PortMoves p q ∨ PortMoves q p

theorem ColonMoves.login_eq (h : ColonMoves p q) : p.login = q.login := by
  obtain ⟨m, huser, hpassword, hfilled⟩ := h
  rw [login_of_filled hfilled, login, huser, hpassword, ← String.append_assoc]

theorem login_eq_iff : p.login = q.login ↔ SameLogin p q := by
  constructor
  · intro h
    by_cases hp : p.password = "" <;> by_cases hq : q.password = ""
    · left
      rw [login_of_empty hp, login_of_empty hq] at h
      exact ⟨h, hp.trans hq.symm⟩
    · right; right
      rw [login_of_empty hp, login_of_filled hq] at h
      exact ⟨q.password, h, by simp [secret, hp], hq⟩
    · right; left
      rw [login_of_filled hp, login_of_empty hq] at h
      exact ⟨p.password, h.symm, by simp [secret, hq], hp⟩
    · rw [login_of_filled hp, login_of_filled hq, joined_eq_iff rfl] at h
      rcases h with hsame | ⟨m, huser, hpassword⟩ | ⟨m, huser, hpassword⟩
      · exact Or.inl hsame
      · exact Or.inr (Or.inl ⟨m, huser, by simp [secret, hq, hpassword, String.append_assoc], hp⟩)
      · exact Or.inr (Or.inr ⟨m, huser, by simp [secret, hp, hpassword, String.append_assoc], hq⟩)
  · rintro (⟨huser, hpassword⟩ | hmoves | hmoves)
    · rw [login, login, secret, secret, huser, hpassword]
    · exact hmoves.login_eq
    · exact hmoves.login_eq.symm

theorem PortMoves.place_eq (h : PortMoves p q) : p.place = q.place := by
  obtain ⟨m, hhost, hdatabase⟩ := h
  simp only [place, hhost, hdatabase, String.append_assoc]

/-- A colon that stands inside the second host does so with all of the first port. -/
theorem portMoves_of_moves (h : Moves ":" p.host (NumberLayout.integer p.port ++ "/" ++ p.database) q.host
    (NumberLayout.integer q.port ++ "/" ++ q.database)) : PortMoves p q := by
  obtain ⟨m, hhost, hrest⟩ := h
  have hcolon : ':' ∉ (NumberLayout.integer p.port).toList := not_mem_integer (by decide) (by decide) _
  obtain ⟨m', hm, hdatabase⟩ := (joined_eq_iff_of_ne rfl rfl (by decide) hcolon).mp hrest
  refine ⟨m', ?_, ?_⟩
  · simp only [hhost, hm, gate, String.append_assoc]
  · simp only [hdatabase, gate, String.append_assoc]

theorem place_eq_iff : p.place = q.place ↔ SamePlace p q := by
  have hslash : ∀ n, '/' ∉ (NumberLayout.integer n).toList := not_mem_integer (by decide) (by decide)
  constructor
  · intro h
    rw [place_eq, place_eq, joined_eq_iff rfl, joined_eq_iff rfl] at h
    rcases h with ⟨hhost, hrest⟩ | hmoves | hmoves
    · left
      rcases hrest with ⟨hport, hdatabase⟩ | ⟨m, hport, -⟩ | ⟨m, hport, -⟩
      · exact ⟨hhost, integer_injective hport, hdatabase⟩
      -- a port has no slash, so that the one behind it does not move
      · refine absurd ?_ (hslash q.port)
        simp [hport]
      · refine absurd ?_ (hslash p.port)
        simp [hport]
    · exact Or.inr (Or.inl (portMoves_of_moves hmoves))
    · exact Or.inr (Or.inr (portMoves_of_moves hmoves))
  · rintro (⟨hhost, hport, hdatabase⟩ | hmoves | hmoves)
    · rw [place, place, gate, gate, hhost, hport, hdatabase]
    · exact hmoves.place_eq
    · exact hmoves.place_eq.symm

/-- **Two addresses are the same** exactly if login and place are, up to the places of their delimiters, or if the at
    sign moves. -/
theorem text_eq_iff : p.text = q.text ↔ (SameLogin p q ∧ SamePlace p q) ∨ SignMoves p q ∨ SignMoves q p := by
  rw [text_eq, text_eq, String.append_right_inj, joined_eq_iff rfl, login_eq_iff, place_eq_iff]
  rfl

/-- A user without a colon, a host without an at sign and a slash, and a database without an at sign. The password is
    any text. -/
structure IsPlain (p : DsnParts) : Prop where
  user : ':' ∉ p.user.toList
  host : '@' ∉ p.host.toList ∧ '/' ∉ p.host.toList
  database : '@' ∉ p.database.toList

theorem IsPlain.not_colonMoves (hq : q.IsPlain) : ¬ ColonMoves p q := by
  rintro ⟨m, huser, -, -⟩
  apply hq.user
  simp [huser]

theorem IsPlain.not_portMoves (hq : q.IsPlain) : ¬ PortMoves p q := by
  rintro ⟨m, hhost, -⟩
  apply hq.host.2
  simp [hhost, gate]

theorem IsPlain.not_signMoves (hp : p.IsPlain) : ¬ SignMoves p q := by
  rintro ⟨m, -, hplace⟩
  have hsign : '@' ∈ p.place.toList := by simp [hplace]
  have hport : '@' ∉ (NumberLayout.integer p.port).toList := not_mem_integer (by decide) (by decide) _
  simp [place, gate, hp.host.1, hp.database, hport] at hsign

/-- **The address of plain parts tells them.** -/
theorem IsPlain.eq_of_text_eq (hp : p.IsPlain) (hq : q.IsPlain) (h : p.text = q.text) : p = q := by
  rw [text_eq_iff] at h
  simp only [SameLogin, SamePlace, hp.not_colonMoves, hq.not_colonMoves, hp.not_portMoves, hq.not_portMoves,
    hp.not_signMoves, hq.not_signMoves, or_false] at h
  obtain ⟨⟨huser, hpassword⟩, hhost, hport, hdatabase⟩ := h
  cases p
  cases q
  simp_all

end DsnParts

/-! ## Addresses -/

variable {s t : Settings} {p q : DsnParts}

theorem dsn_withDsn (h : s.BuildsFrom p) : s.withDsn.dsn = p.text := by
  obtain ⟨hunset, hparts⟩ := buildsFrom_iff.mp h
  simp [Settings.withDsn, hunset, hparts]

/-- **What a built address tells of its parts.** Two settings build the same address exactly if their logins and their
    places are the same up to a delimiter that moves, or if the at sign between them moves. So where no user has a
    colon, no host an at sign or a slash, and no database an at sign, the address tells user, password, host, port and
    database, whatever characters the passwords have. -/
theorem database_address_tells_parts (hs : s.BuildsFrom p) (ht : t.BuildsFrom q) :
    (s.withDsn.dsn = t.withDsn.dsn ↔ (p.SameLogin q ∧ p.SamePlace q) ∨ p.SignMoves q ∨ q.SignMoves p)
      ∧ (p.IsPlain → q.IsPlain → s.withDsn.dsn = t.withDsn.dsn → p = q) := by
  rw [dsn_withDsn hs, dsn_withDsn ht]
  constructor
  · exact DsnParts.text_eq_iff
  · intro hp hq h
    exact hp.eq_of_text_eq hq h

/-- Settings with a user and a password of the database, and defaults. -/
def loginSettings (user password : String) : Settings where
  baseUrl := "http://localhost:5678"
  user := "admin"
  password := "admin"
  apiKey := none
  apiTimeout := .ofNat 30
  dsn := ""
  databaseHost := some "localhost"
  databasePort := some 5432
  database := some "app"
  databaseUser := some user
  databasePassword := some password
  schema := none
  tablePrefix := ""
  logLevel := "INFO"
  pollInterval := .ofNat 1
  pollAttempts := 60
  costPerToken := .ofNat 0
  currency := "USD"
  registryFile := none
  credentialAttempts := 3
  credentialServices := []
  traceEndpoint := none
  traceTimeout := 30
  serviceName := "n8n-prompt-chains"

theorem buildsFrom_loginSettings (user password : String) (huser : user ≠ "") :
    (loginSettings user password).BuildsFrom ⟨user, password, "localhost", 5432, "app"⟩ := by
  apply buildsFrom_iff.mpr
  simp [loginSettings, Settings.dsnParts?, Settings.filled, Option.filter_some, huser]

/-- Passwords with delimiters are told from one another. -/
theorem database_address_tells_parts_delimiters :
    (loginSettings "svc" "p@s:w/d").BuildsFrom ⟨"svc", "p@s:w/d", "localhost", 5432, "app"⟩
      ∧ (loginSettings "svc" "p@s").BuildsFrom ⟨"svc", "p@s", "localhost", 5432, "app"⟩
      ∧ (loginSettings "svc" "p@s:w/d").withDsn.dsn ≠ (loginSettings "svc" "p@s").withDsn.dsn := by
  have hlong := buildsFrom_loginSettings "svc" "p@s:w/d" (by decide)
  have hshort := buildsFrom_loginSettings "svc" "p@s" (by decide)
  refine ⟨hlong, hshort, ?_⟩
  intro h
  have hsame := (database_address_tells_parts hlong hshort).2 ⟨by decide, by decide, by decide⟩
    ⟨by decide, by decide, by decide⟩ h
  simp at hsame

/-- **A colon in a user is lost**: the user with the password behind a colon, and without one of its own, has the same
    address as the user with the password. -/
theorem colon_in_user_is_lost :
    (loginSettings "svc:pw" "").BuildsFrom ⟨"svc:pw", "", "localhost", 5432, "app"⟩
      ∧ (loginSettings "svc" "pw").BuildsFrom ⟨"svc", "pw", "localhost", 5432, "app"⟩
      ∧ (loginSettings "svc:pw" "").withDsn.dsn = (loginSettings "svc" "pw").withDsn.dsn := by
  have hjoined := buildsFrom_loginSettings "svc:pw" "" (by decide)
  have hapart := buildsFrom_loginSettings "svc" "pw" (by decide)
  refine ⟨hjoined, hapart, ?_⟩
  rw [dsn_withDsn hjoined, dsn_withDsn hapart, DsnParts.text_eq_iff]
  left
  constructor
  · right; right
    exact ⟨"pw", by decide, by decide, by decide⟩
  · left
    simp

end PromptGraph
