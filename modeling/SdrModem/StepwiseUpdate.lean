import Mathlib.Data.List.Basic
import Mathlib.Data.List.TakeWhile
import Mathlib.Data.Option.Basic
import Mathlib.Logic.Function.Basic

/-!
# Updates that are made step by step

A driver changes a device by a sequence of calls, each of which can fail; it
returns at the first failure, and nobody undoes the calls before it.
`andThen` is the sequential composition of such calls and `perform` a list of
writes to the attributes of a device.

An `Updater` says what such an update leaves behind: which of the parameters of
the device were `written` before the update returned, and whether it is
`complete`.  An update that is not complete is harmless exactly when everything it
wrote was there before (`Updater.held_eq_iff`).
-/
namespace StepwiseUpdate

/-- `if (code != 0) return code;` between two calls. -/
def andThen {D : Type} (r : Int × D) (next : D → Int × D) : Int × D :=
  if r.1 = 0 then next r.2 else r

section Calls
variable {D : Type} {r : Int × D} {next : D → Int × D}

theorem andThen_of_ok (h : r.1 = 0) : andThen r next = next r.2 := if_pos h

theorem andThen_of_failed (h : r.1 ≠ 0) : andThen r next = r := if_neg h

/-- A sequence of calls succeeds if both parts do. -/
theorem andThen_code : (andThen r next).1 = 0 ↔ r.1 = 0 ∧ (next r.2).1 = 0 := by
  unfold andThen
  split
  · simp [*]
  · simp [*]

theorem andThen_assoc {last : D → Int × D} :
    andThen (andThen r next) last = andThen r fun d => andThen (next d) last := by
  by_cases h : r.1 = 0
  · rw [andThen_of_ok h, andThen_of_ok h]
  · rw [andThen_of_failed h, andThen_of_failed h, andThen_of_failed h]

/-- What the first call establishes and the second keeps holds behind both. -/
theorem andThen_keeps {P : D → Prop} (hr : P r.2) (hnext : P r.2 → P (next r.2).2) :
    P (andThen r next).2 := by
  unfold andThen
  split
  · exact hnext hr
  · exact hr

end Calls

/-! ## Lists of writes -/

section Writes
variable {A V D : Type} (write : A → V → D → Int × D)

/-- Writes in order, up to the first that fails. -/
def perform : List (A × V) → D → Int × D
  | [], d => (0, d)
  | w :: ws, d => andThen (write w.1 w.2 d) (perform ws)

/-- The writes that come before the first failure. -/
def done (ok : A → Bool) (ws : List (A × V)) : List (A × V) := ws.takeWhile fun w => ok w.1

variable {write} {ok : A → Bool}

theorem done_of_ok {w : A × V} (h : ok w.1 = true) (ws : List (A × V)) :
    done ok (w :: ws) = w :: done ok ws := by
  rw [done, List.takeWhile_cons, if_pos h, done]

theorem done_of_failed {w : A × V} (h : ¬ ok w.1 = true) (ws : List (A × V)) :
    done ok (w :: ws) = [] := by
  rw [done, List.takeWhile_cons, if_neg h]

/-- The list succeeds if every write in it does. -/
theorem perform_code (hcode : ∀ a v d, (write a v d).1 = 0 ↔ ok a = true) (ws : List (A × V))
    (d : D) : (perform write ws d).1 = 0 ↔ ∀ w ∈ ws, ok w.1 = true := by
  induction ws generalizing d with
  | nil => simp [perform]
  | cons w ws ih => rw [perform, andThen_code, hcode, ih, List.forall_mem_cons]

/-- What every write keeps the list keeps. -/
theorem perform_keeps {P : D → Prop} (hwrite : ∀ a v d, P d → P (write a v d).2)
    (ws : List (A × V)) {d : D} (hd : P d) : P (perform write ws d).2 := by
  induction ws generalizing d with
  | nil => exact hd
  | cons w ws ih => exact andThen_keeps (hwrite _ _ _ hd) fun h => ih h

/-- Without a failure all writes are made. -/
theorem done_of_all {ws : List (A × V)} (h : ∀ w ∈ ws, ok w.1 = true) : done ok ws = ws :=
  List.takeWhile_eq_self_iff.mpr h

/-- What no write before the first failure names keeps its value. -/
theorem perform_of_not_mem (get : D → A → V)
    (hcode : ∀ a v d, (write a v d).1 = 0 ↔ ok a = true)
    (hother : ∀ a v d b, b ≠ a → get (write a v d).2 b = get d b)
    (hfailed : ∀ a v d, ok a = false → (write a v d).2 = d) {x : A} {ws : List (A × V)}
    (hx : x ∉ (done ok ws).map Prod.fst) (d : D) : get (perform write ws d).2 x = get d x := by
  induction ws generalizing d with
  | nil => rfl
  | cons w ws ih =>
    rw [perform]
    by_cases hw : ok w.1 = true
    · rw [done_of_ok hw, List.map_cons, List.mem_cons, not_or] at hx
      rw [andThen_of_ok ((hcode _ _ _).mpr hw), ih hx.2, hother _ _ _ _ hx.1]
    · rw [andThen_of_failed (mt (hcode _ _ _).mp hw), hfailed _ _ _ (Bool.not_eq_true _ ▸ hw)]

/-- A write before the first failure gives its attribute the value, if no later one
names it. -/
theorem perform_of_mem (get : D → A → V)
    (hcode : ∀ a v d, (write a v d).1 = 0 ↔ ok a = true)
    (hself : ∀ a v d, ok a = true → get (write a v d).2 a = v)
    (hother : ∀ a v d b, b ≠ a → get (write a v d).2 b = get d b)
    (hfailed : ∀ a v d, ok a = false → (write a v d).2 = d) {x : A} {v : V} {ws : List (A × V)}
    (hnodup : (ws.map Prod.fst).Nodup) (hx : (x, v) ∈ done ok ws) (d : D) :
    get (perform write ws d).2 x = v := by
  induction ws generalizing d with
  | nil => exact absurd hx List.not_mem_nil
  | cons w ws ih =>
    obtain ⟨hfresh, hrest⟩ := List.nodup_cons.mp hnodup
    by_cases hw : ok w.1 = true
    · rw [done_of_ok hw, List.mem_cons] at hx
      rw [perform, andThen_of_ok ((hcode _ _ _).mpr hw)]
      rcases hx with rfl | hx
      · have hlater : x ∉ (done ok ws).map Prod.fst := by
          intro hmem
          obtain ⟨w', hw', rfl⟩ := List.mem_map.mp hmem
          exact hfresh (List.mem_map.mpr ⟨w', (List.takeWhile_subset _) hw', rfl⟩)
        rw [perform_of_not_mem get hcode hother hfailed hlater, hself _ _ _ hw]
      · exact ih hrest hx _
    · rw [done_of_failed hw] at hx
      exact absurd hx List.not_mem_nil

theorem lookup_of_mem [DecidableEq A] {x : A} {v : V} {ws : List (A × V)}
    (hnodup : (ws.map Prod.fst).Nodup) (hx : (x, v) ∈ ws) : ws.lookup x = some v := by
  induction ws with
  | nil => exact absurd hx List.not_mem_nil
  | cons w ws ih =>
    obtain ⟨hfresh, hrest⟩ := List.nodup_cons.mp hnodup
    rcases List.mem_cons.mp hx with rfl | hx
    · exact List.lookup_cons_self
    · have hne : x ≠ w.1 := by
        rintro rfl
        exact hfresh (List.mem_map.mpr ⟨_, hx, rfl⟩)
      rw [List.lookup_cons, beq_false_of_ne hne]
      exact ih hrest hx

end Writes

/-! ## Updates of the parameters of a device -/

/-- **An update of a device**, as seen from the parameters the device holds.  The
results of the calls it makes are an `Outcome`.  `requested` leaves out what the
update does not determine. -/
structure Updater (Device Outcome Config Param Value : Type) where
  update : Outcome → Config → Device → Int × Device
  held : Device → Param → Value
  requested : Config → Param → Option Value
  /-- every call succeeds -/
  Complete : Outcome → Config → Device → Prop
  /-- the update gets as far as writing this parameter -/
  Written : Outcome → Config → Device → Param → Prop
  /-- what the driver remembers of the device is true -/
  Synced : Device → Prop
  code_eq_zero : ∀ o c d, (update o c d).1 = 0 ↔ Complete o c d
  held_written : ∀ o c d x, Written o c d x → requested c x = some (held (update o c d).2 x)
  held_unwritten : ∀ o c d x, ¬ Written o c d x → held (update o c d).2 x = held d x
  unwritten : ∀ o c d x, Synced d → Complete o c d → ¬ Written o c d x →
    (requested c x).getD (held d x) = held d x
  synced_update : ∀ o c d, Synced d →
    (Complete o c d ∨ ∀ x, Written o c d x → requested c x = some (held d x)) →
    Synced (update o c d).2

namespace Updater
variable {Device Outcome Config Param Value : Type}
  (u : Updater Device Outcome Config Param Value) {o : Outcome} {c : Config} {d : Device}

/-- The update succeeds, or it fails after writing only what was there already. -/
def Harmless (o : Outcome) (c : Config) (d : Device) : Prop :=
  u.Complete o c d ∨ ∀ x, u.Written o c d x → u.requested c x = some (u.held d x)

/-- The parameters after an update that was carried out. -/
def overlay (c : Config) (held : Param → Value) : Param → Value :=
  fun x => (u.requested c x).getD (held x)

/-- A complete update leaves the parameters it was asked for. -/
theorem held_of_complete (hsync : u.Synced d) (h : u.Complete o c d) :
    u.held (u.update o c d).2 = u.overlay c (u.held d) := by
  funext x
  by_cases hx : u.Written o c d x
  · rw [overlay, u.held_written o c d x hx, Option.getD_some]
  · rw [u.held_unwritten o c d x hx, overlay, u.unwritten o c d x hsync h hx]

/-- **An update leaves every parameter as it was exactly if all it wrote was there
before.** -/
theorem held_eq_iff :
    u.held (u.update o c d).2 = u.held d ↔
      ∀ x, u.Written o c d x → u.requested c x = some (u.held d x) := by
  constructor
  · intro h x hx
    rw [u.held_written o c d x hx, h]
  · intro h
    funext x
    by_cases hx : u.Written o c d x
    · exact Option.some.inj ((u.held_written o c d x hx).symm.trans (h x hx))
    · exact u.held_unwritten o c d x hx

end Updater
end StepwiseUpdate
