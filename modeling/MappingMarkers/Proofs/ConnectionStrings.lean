import MappingMarkers.CommandLine.Program
import MappingMarkers.Proofs.Splitting

namespace MappingMarkers.Proofs.ConnectionStrings

open Text Catalog Splitting

/-- The connection string of the credentials. -/
def spelled (c : Credentials) : Text := c.user ++ '/' :: (c.password ++ '@' :: c.dsn)

/-- Credentials that their connection string keeps apart. The password may hold anything. -/
structure Separable (c : Credentials) : Prop where
  user_ne_nil : c.user ≠ []
  slash_notMem : '/' ∉ c.user
  dsn_ne_nil : c.dsn ≠ []
  at_notMem : '@' ∉ c.dsn

theorem parse?_eq_some_iff {t : Text} {c : Credentials} :
    Credentials.parse? t = some c ↔ spelled c = t ∧ Separable c := by
  simp only [Credentials.parse?, Option.bind_eq_bind, Option.bind_eq_some_iff, Prod.exists,
    cutLast?_eq_some_iff, cutFirst?_eq_some_iff, Option.ite_none_left_eq_some, Option.some.injEq,
    Bool.or_eq_true, List.isEmpty_iff, not_or]
  constructor
  · rintro ⟨_, dsn, ⟨rfl, hat⟩, user, password, ⟨rfl, hslash⟩, ⟨huser, hdsn⟩, rfl⟩
    exact ⟨by simp [spelled], huser, hslash, hdsn, hat⟩
  · rintro ⟨rfl, separable⟩
    refine ⟨c.user ++ '/' :: c.password, c.dsn, ⟨by simp [spelled], separable.at_notMem⟩, c.user,
      c.password, ⟨rfl, separable.slash_notMem⟩, ⟨separable.user_ne_nil, separable.dsn_ne_nil⟩, rfl⟩

theorem parse?_eq_none_iff {t : Text} :
    Credentials.parse? t = none ↔ ∀ c, Separable c → spelled c ≠ t := by
  rw [Option.eq_none_iff_forall_ne_some]
  refine forall_congr' fun c => ?_
  rw [ne_eq, parse?_eq_some_iff, not_and']

theorem parse?_spelled {c : Credentials} (h : Separable c) :
    Credentials.parse? (spelled c) = some c :=
  parse?_eq_some_iff.mpr ⟨rfl, h⟩

theorem Separable.eq_of_spelled_eq {c d : Credentials} (hc : Separable c) (hd : Separable d)
    (h : spelled c = spelled d) : c = d := by
  have hread := parse?_spelled hc
  rw [h, parse?_spelled hd, Option.some.injEq] at hread
  exact hread.symm

section CommandLine

variable {env : Environment} {a : CommandLine.Arguments} {t : Text}

theorem credentials_of_given (hgiven : a.conn = some t) (hne : t ≠ []) :
    CommandLine.credentials env a =
      (Credentials.parse? t).elim (.error Fault.connectString.message) .ok := by
  have hkept : a.conn.filter (!·.isEmpty) = some t := by simp [hgiven, hne]
  cases hread : Credentials.parse? t with
  | none => simp [CommandLine.credentials, hkept, hread]
  | some c => simp [CommandLine.credentials, hkept, hread]

theorem credentials_eq_ok_iff (hgiven : a.conn = some t) (hne : t ≠ []) {c : Credentials} :
    CommandLine.credentials env a = .ok c ↔ spelled c = t ∧ Separable c := by
  rw [credentials_of_given hgiven hne, ← parse?_eq_some_iff]
  cases Credentials.parse? t <;> simp

theorem credentials_eq_error_iff (hgiven : a.conn = some t) (hne : t ≠ []) {e : Text} :
    CommandLine.credentials env a = .error e ↔
      e = Fault.connectString.message ∧ ∀ c, Separable c → spelled c ≠ t := by
  rw [credentials_of_given hgiven hne, ← parse?_eq_none_iff]
  cases Credentials.parse? t <;> simp [eq_comm]

end CommandLine

/-- A string is read just when it is the connection string of credentials that it keeps apart, and
then as these, since there are no others; every other string is refused, also by a command line that
gives it. -/
theorem parse?_inverts :
    (∀ t c, Credentials.parse? t = some c ↔ spelled c = t ∧ Separable c) ∧
    (∀ c d, Separable c → Separable d → spelled c = spelled d → c = d) ∧
    (∀ t c, Credentials.parse? t = some c → spelled c = t) ∧
    (∀ c, Separable c → Credentials.parse? (spelled c) = some c) ∧
    (∀ t, Credentials.parse? t = none ↔ ∀ c, Separable c → spelled c ≠ t) ∧
    ∀ env (a : CommandLine.Arguments) t, a.conn = some t → t ≠ [] →
      (∀ c, CommandLine.credentials env a = .ok c ↔ spelled c = t ∧ Separable c) ∧
      ∀ e, CommandLine.credentials env a = .error e ↔
        e = Fault.connectString.message ∧ ∀ c, Separable c → spelled c ≠ t := by
  refine ⟨fun t c => parse?_eq_some_iff, fun c d hc hd => hc.eq_of_spelled_eq hd, fun t c h => ?_,
    fun c => parse?_spelled, fun t => parse?_eq_none_iff, fun env a t hgiven hne => ?_⟩
  · exact (parse?_eq_some_iff.mp h).1
  · exact ⟨fun c => credentials_eq_ok_iff hgiven hne, fun e => credentials_eq_error_iff hgiven hne⟩

theorem parse?_inverts_slashedPassword :
    let c : Credentials :=
      { user := "a@b".toList, password := "x/y@z".toList, dsn := "h:1521/s".toList }
    let a : CommandLine.Arguments :=
      { command := .check, verbose := false, rootDir := ['.'], suffix := none,
        conn := some "a@b/x/y@z@h:1521/s".toList, schema := none, dryRun := false, strict := false }
    spelled c = "a@b/x/y@z@h:1521/s".toList ∧ Separable c ∧
      Credentials.parse? "a@b/x/y@z@h:1521/s".toList = some c ∧
      a.conn = some "a@b/x/y@z@h:1521/s".toList ∧ "a@b/x/y@z@h:1521/s".toList ≠ [] ∧
      CommandLine.credentials [] a = .ok c := by
  intro c a
  have hspelled : spelled c = "a@b/x/y@z@h:1521/s".toList := rfl
  have separable : Separable c := ⟨by decide, by decide, by decide, by decide⟩
  have hne : "a@b/x/y@z@h:1521/s".toList ≠ [] := by decide
  obtain ⟨hread, -, -, -, -, hgiven⟩ := parse?_inverts
  exact ⟨hspelled, separable, (hread _ c).mpr ⟨hspelled, separable⟩, rfl, hne,
    ((hgiven [] a _ rfl hne).1 c).mpr ⟨hspelled, separable⟩⟩

-- The slash belongs to the place to connect to, so there is no password.
example : Credentials.parse? "user@host/service".toList = none := by decide

end MappingMarkers.Proofs.ConnectionStrings
