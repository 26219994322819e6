import Mathlib.Data.List.TakeWhile
import Courier.Postgres.Pool
/-
What a masked address shows of a password. The password is taken to end at the first at sign, while
readers of addresses take it to end at the last one. So a password without an at sign leaves no
trace, and of any other all is shown from its first at sign on.
-/

namespace Courier.Postgres.Address

variable {scheme user password password' place : String}

/-- An address with a user and a password. -/
def written (scheme user password place : String) : String :=
  scheme ++ "://" ++ user ++ ":" ++ password ++ "@" ++ place

/-- The part of a password from its first at sign on. -/
def exposed (password : String) : String := String.ofList (password.toList.dropWhile (· ≠ '@'))

/-- A text is split where a piece begins if no character before it begins the piece. -/
theorem splitAt?_first {x : Char} {piece before : List Char} (h : x ∉ before) (after : List Char) :
    splitAt? (x :: piece) (before ++ (x :: piece ++ after)) = some (before, after) := by
  induction before with
  | nil =>
    show (if (x :: piece).isPrefixOf (x :: piece ++ after) then some ([], (x :: piece ++ after).drop (x :: piece).length)
      else _) = _
    rw [if_pos (List.isPrefixOf_iff_prefix.2 (List.prefix_append ..)), List.drop_left]
  | cons c r ih =>
    obtain ⟨hc, hr⟩ := not_or.1 (List.mem_cons.not.1 h)
    have hno : (x :: piece).isPrefixOf (c :: (r ++ (x :: piece ++ after))) = false := by
      rw [List.isPrefixOf_cons_cons, beq_false_of_ne hc, Bool.false_and]
    rw [List.cons_append, splitAt?, hno, ih hr]
    rfl

theorem exposed_clear (h : '@' ∉ password.toList) : exposed password = "" := by
  have hnil : password.toList.dropWhile (· ≠ '@') = [] :=
    List.dropWhile_eq_nil_iff.2 fun c hc => decide_eq_true fun he => h (he ▸ hc)
  rw [exposed, hnil, String.ofList_nil]

/-- What follows the first at sign behind a password begins with it. -/
theorem exposed_then (password place : List Char) :
    ∃ after, password.dropWhile (· ≠ '@') ++ '@' :: place = '@' :: after := by
  cases hdrop : password.dropWhile (· ≠ '@') with
  | nil => exact ⟨place, rfl⟩
  | cons c r =>
    have hc : c = '@' := by
      have hhead := List.head?_dropWhile_not (· ≠ '@') password
      rw [hdrop] at hhead
      simpa using hhead
    exact ⟨r ++ '@' :: place, by rw [hc, List.cons_append]⟩

/-- The stars stand for the password up to its first at sign. -/
theorem masked_written (hscheme : ':' ∉ scheme.toList) (huser : ':' ∉ user.toList) (huser' : '@' ∉ user.toList) :
    masked (written scheme user password place) =
      scheme ++ "://" ++ user ++ ":***" ++ exposed password ++ "@" ++ place := by
  obtain ⟨after, hafter⟩ := exposed_then password.toList place.toList
  have hpassword : password.toList ++ '@' :: place.toList = password.toList.takeWhile (· ≠ '@') ++ '@' :: after := by
    rw [← hafter, ← List.append_assoc, List.takeWhile_append_dropWhile]
  have hurl : (written scheme user password place).toList = scheme.toList ++ ([':', '/', '/'] ++
      ((user.toList ++ ':' :: password.toList.takeWhile (· ≠ '@')) ++ '@' :: after)) := by
    simp only [List.append_assoc, List.cons_append, ← hpassword]
    simp [written]
  have hwho : '@' ∉ user.toList ++ ':' :: password.toList.takeWhile (· ≠ '@') := by
    intro hmem
    rcases List.mem_append.1 hmem with h | h
    · exact huser' h
    · rcases List.mem_cons.1 h with h | h
      · cases h
      · simpa using List.mem_takeWhile_imp h
  have hplace : splitAt? ['@'] ((user.toList ++ ':' :: password.toList.takeWhile (· ≠ '@')) ++ '@' :: after) =
      some (user.toList ++ ':' :: password.toList.takeWhile (· ≠ '@'), after) := splitAt?_first hwho after
  have hsecret : splitAt? [':'] (user.toList ++ ':' :: password.toList.takeWhile (· ≠ '@')) =
      some (user.toList, password.toList.takeWhile (· ≠ '@')) := splitAt?_first huser _
  rw [masked, hurl, splitAt?_first hscheme]
  simp only [hplace, hsecret]
  refine String.toList_inj.1 ?_
  simp [exposed, ← hafter]

/-- **Two passwords are masked alike if and only if they are the same from their first at sign on**, in particular if
neither has one. -/
theorem masked_alike_iff (hscheme : ':' ∉ scheme.toList) (huser : ':' ∉ user.toList) (huser' : '@' ∉ user.toList) :
    (masked (written scheme user password place) = masked (written scheme user password' place) ↔
      exposed password = exposed password') ∧
    ('@' ∉ password.toList → '@' ∉ password'.toList →
      masked (written scheme user password place) = masked (written scheme user password' place)) := by
  have halike : masked (written scheme user password place) = masked (written scheme user password' place) ↔
      exposed password = exposed password' := by
    rw [masked_written hscheme huser huser', masked_written hscheme huser huser']
    refine ⟨fun h => ?_, fun h => by rw [h]⟩
    have hlist := congrArg String.toList h
    simp only [String.toList_append, List.append_cancel_right_eq, List.append_cancel_left_eq] at hlist
    exact String.toList_inj.1 hlist
  exact ⟨halike, fun h h' => halike.2 (by rw [exposed_clear h, exposed_clear h'])⟩

/-- Of a password with two at signs, what is between them is shown and makes a difference. -/
theorem sample_masked_alike :
    let place := "localhost:5432/push_relay"
    masked (written "postgres" "relay" "a@b@c" place) = "postgres://relay:***@b@c@localhost:5432/push_relay" ∧
      masked (written "postgres" "relay" "a@b@c" place) = masked (written "postgres" "relay" "secret@b@c" place) ∧
      masked (written "postgres" "relay" "a@b@c" place) ≠ masked (written "postgres" "relay" "a@secret@c" place) := by
  intro place
  have hscheme : ':' ∉ "postgres".toList := by decide
  have huser : ':' ∉ "relay".toList := by decide
  have huser' : '@' ∉ "relay".toList := by decide
  exact ⟨by decide, (masked_alike_iff hscheme huser huser').1.2 (by decide),
    fun h => absurd ((masked_alike_iff hscheme huser huser').1.1 h) (by decide)⟩

/-- Whether a text has none of some characters. -/
def Free (barred text : String) : Prop := ∀ c ∈ text.toList, c ∉ barred.toList

instance (barred text : String) : Decidable (Free barred text) := List.decidableBAll (· ∉ barred.toList) text.toList

/-- Passwords that readers of addresses take for such are not always masked alike. -/
theorem not_always_masked_alike : ¬ ∀ scheme user password password' place : String, Free ":/?#@" scheme → Free ":/?#@" user →
    Free "@" place → Free "/?#" password → Free "/?#" password' →
    masked (written scheme user password place) = masked (written scheme user password' place) := by
  intro hclaim
  have halike := hclaim "postgres" "relay" "se@cret" "secret" "localhost:5432/push_relay" (by decide) (by decide)
    (by decide) (by decide) (by decide)
  exact absurd halike (by decide)

/-- A reader of addresses finds the whole password, which ends at the last at sign. -/
example : (Text.ServerUrl.parse (written "postgres" "relay" "se@cret" "localhost:5432/push_relay")).map (·.password) =
    .ok (some "se@cret") := by decide +kernel

end Courier.Postgres.Address
