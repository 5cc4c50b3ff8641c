import Mathlib.Algebra.Group.Prod
import Mathlib.Algebra.Order.Group.Multiset
import Mathlib.Tactic.Abel

/-!
# Programs that acquire and release

A program asks for things, may be refused, and gives back what it got.  It may also start
threads, and a thread uses things until it is joined.  To give back what is not there or what a
thread still uses is an error (`none`), and so is a thread that is started on what is not there.

`Spec shared P program Q` is a triple with the frame inside: a program that has `P` does not
fail, and then it has `Q`, whatever else there is.  The `shared` things are there all the time,
and anybody may use them.
-/
namespace Ledger

/-- A thing of some kind.  No two things have the same number. -/
structure Thing (K : Type) where
  kind : K
  id : Nat
deriving DecidableEq, Repr

/-- A thing whose kind is known: what a pointer of some type points to. -/
structure Handle {K : Type} (k : K) where
  id : Nat
deriving DecidableEq, Repr

def Handle.thing {K : Type} {k : K} (h : Handle k) : Thing K := ⟨k, h.id⟩

/-- A thread, and the things it uses. -/
structure Thread (K : Type) where
  id : Nat
  uses : List (Thing K)
deriving DecidableEq, Repr

/-- Things and threads. -/
abbrev Holding (K : Type) := Multiset (Thing K) × Multiset (Thread K)

/-- A list of things. -/
def things {K : Type} (l : List (Thing K)) : Holding K := (l, 0)

/-- What there is.  `refuses` says which requests are refused. -/
structure State (K : Type) where
  refuses : Nat → Bool
  requests : Nat
  holding : Holding K

variable {K : Type}

/-- Programs. -/
abbrev Program (K : Type) := StateT (State K) Option

/-- The threads use things that are there, and the numbers are those of requests. -/
structure State.Valid (s : State K) : Prop where
  nodup : s.holding.1.Nodup
  id_lt : ∀ r ∈ s.holding.1, r.id < s.requests
  uses : ∀ t ∈ s.holding.2, ∀ r ∈ t.uses, r ∈ s.holding.1

/-- A request that gets nothing, such as a setting that may be refused. -/
def attempt : Program K Bool := fun s =>
  some (!s.refuses s.requests, { s with requests := s.requests + 1 })

/-- A request for a thing. -/
def acquire (k : K) : Program K (Option (Handle k)) := fun s =>
  if s.refuses s.requests then some (none, { s with requests := s.requests + 1 })
  else
    some (some ⟨s.requests⟩,
      { s with
        requests := s.requests + 1
        holding := (⟨k, s.requests⟩ ::ₘ s.holding.1, s.holding.2) })

/-- A thing that is not refused. -/
def adopt (k : K) : Program K (Handle k) := fun s =>
  some (⟨s.requests⟩,
    { s with
      requests := s.requests + 1
      holding := (⟨k, s.requests⟩ ::ₘ s.holding.1, s.holding.2) })

section
variable [DecidableEq K]

/-- A thing is given back. -/
def release {k : K} (h : Handle k) : Program K Unit := fun s =>
  if h.thing ∈ s.holding.1 ∧ ∀ t ∈ s.holding.2, h.thing ∉ t.uses then
    some ((), { s with holding := (s.holding.1.erase h.thing, s.holding.2) })
  else none

/-- A request for a thread. -/
def start (uses : List (Thing K)) : Program K (Option Nat) := fun s =>
  if ∀ r ∈ uses, r ∈ s.holding.1 then
    if s.refuses s.requests then some (none, { s with requests := s.requests + 1 })
    else
      some (some s.requests,
        { s with
          requests := s.requests + 1
          holding := (s.holding.1, ⟨s.requests, uses⟩ ::ₘ s.holding.2) })
  else none

/-- The end of a thread is waited for. -/
def join (t : Thread K) : Program K Unit := fun s =>
  if t ∈ s.holding.2 then
    some ((), { s with holding := (s.holding.1, s.holding.2.erase t) })
  else none

end

/-- The threads use only these things and shared ones. -/
def Closed (shared : Multiset (Thing K)) (h : Holding K) : Prop :=
  ∀ t ∈ h.2, ∀ r ∈ t.uses, r ∈ h.1 ∨ r ∈ shared

/-- **A triple**: with `P` the program does not fail and leaves `Q`, in every frame. -/
def Spec {α : Type} (shared : Multiset (Thing K)) (P : Holding K) (x : Program K α)
    (Q : α → Holding K) : Prop :=
  ∀ (s : State K) (F : Holding K), s.Valid → s.holding = P + (shared, 0) + F → Closed shared F →
    ∃ a t, x s = some (a, t) ∧ t.Valid ∧ t.holding = Q a + (shared, 0) + F

variable {α β : Type} {shared : Multiset (Thing K)} {P P' G : Holding K} {x : Program K α}
variable {Q : α → Holding K} {R : β → Holding K}

theorem Closed.add {h k : Holding K} (hh : Closed shared h) (hk : Closed shared k) :
    Closed shared (h + k) := by
  intro t ht r hr
  rcases Multiset.mem_add.mp ht with ht | ht
  · exact (hh t ht r hr).imp_left fun hmem => Multiset.mem_add.mpr (Or.inl hmem)
  · exact (hk t ht r hr).imp_left fun hmem => Multiset.mem_add.mpr (Or.inr hmem)

/-- Things without threads. -/
theorem closed_things (l : List (Thing K)) : Closed shared (things l) :=
  fun t ht => absurd ht (Multiset.notMem_zero t)

theorem things_nil : things ([] : List (Thing K)) = 0 := rfl

theorem things_append (l m : List (Thing K)) : things (l ++ m) = things l + things m :=
  Prod.ext (Multiset.coe_add l m).symm (add_zero _).symm

/-- One thing. -/
def one (r : Thing K) : Holding K := things [r]

theorem things_singleton (r : Thing K) : things [r] = one r := rfl

theorem things_cons (r : Thing K) (l : List (Thing K)) : things (r :: l) = one r + things l :=
  things_append [r] l

theorem things_perm {l m : List (Thing K)} (h : l.Perm m) : things l = things m :=
  Prod.ext (Multiset.coe_eq_coe.mpr h) rfl

theorem Closed.mono {h : Holding K} {more : Multiset (Thing K)} (hh : Closed shared h) :
    Closed (shared + more) h :=
  fun t ht r hr => (hh t ht r hr).imp_right fun hmem => Multiset.mem_add.mpr (Or.inl hmem)

/-! ## Rules -/

theorem Spec.pure {a : α} (h : P = Q a) : Spec shared P (pure a) Q :=
  fun s _ hs hh _ => ⟨a, s, rfl, hs, h ▸ hh⟩

theorem Spec.bind {f : α → Program K β} (hx : Spec shared P x Q)
    (hf : ∀ a, Spec shared (Q a) (f a) R) : Spec shared P (x >>= f) R := by
  intro s F hs hh hF
  obtain ⟨a, t, ht, hvalid, hholding⟩ := hx s F hs hh hF
  obtain ⟨b, u, hu, hvalid', hholding'⟩ := hf a t F hvalid hholding hF
  refine ⟨b, u, ?_, hvalid', hholding'⟩
  change (x s).bind (fun r => f r.1 r.2) = some (b, u)
  rw [ht, Option.bind_some, hu]

/-- **The frame rule.** -/
theorem Spec.frame (hx : Spec shared P x Q) (hG : Closed shared G) :
    Spec shared (P + G) x fun a => Q a + G := by
  intro s F hs hh hF
  have hsplit : s.holding = P + (shared, 0) + (G + F) := by
    rw [hh]
    abel
  obtain ⟨a, t, ht, hvalid, hholding⟩ := hx s (G + F) hs hsplit (hG.add hF)
  refine ⟨a, t, ht, hvalid, ?_⟩
  calc t.holding = Q a + (shared, 0) + (G + F) := hholding
    _ = Q a + G + (shared, 0) + F := by abel

/-- **What a program has can be shared while it runs.** -/
theorem Spec.share {l : List (Thing K)} (hx : Spec (shared + (l : Multiset (Thing K))) P x Q) :
    Spec shared (P + things l) x fun a => Q a + things l := by
  intro s F hs hh hF
  have hsplit : ∀ h : Holding K,
      h + things l + (shared, 0) + F = h + (shared + (l : Multiset (Thing K)), 0) + F := by
    intro h
    have hboth : ((shared + (l : Multiset (Thing K)), 0) : Holding K) = (shared, 0) + things l :=
      rfl
    rw [hboth]
    abel
  obtain ⟨a, t, ht, hvalid, hholding⟩ := hx s F hs (hh.trans (hsplit P)) hF.mono
  exact ⟨a, t, ht, hvalid, hholding.trans (hsplit (Q a)).symm⟩

/-- **A program may use what there is**, if it only shares it. -/
theorem Spec.within {l : List (Thing K)} (k : Holding K)
    (hx : Spec (shared + (l : Multiset (Thing K))) 0 x Q) (hP : P = k + things l)
    (hk : Closed (shared + (l : Multiset (Thing K))) k) : Spec shared P x fun a => Q a + P := by
  subst hP
  intro s F hs hh hF
  obtain ⟨a, t, ht, hvalid, hholding⟩ := (hx.frame hk).share s F hs
    (hh.trans (by rw [zero_add])) hF
  refine ⟨a, t, ht, hvalid, hholding.trans ?_⟩
  dsimp only
  rw [add_assoc (Q a)]

theorem Spec.of_eq (hx : Spec shared P x Q) {Q' : α → Holding K} (hP : P' = P)
    (hQ : ∀ a, Q a = Q' a) : Spec shared P' x Q' := by
  obtain rfl : Q = Q' := funext hQ
  exact hP ▸ hx

section Requests
variable {s : State K}

/-- A new thing. -/
theorem State.Valid.cons (hs : s.Valid) (k : K) :
    State.Valid
      { s with
        requests := s.requests + 1
        holding := (⟨k, s.requests⟩ ::ₘ s.holding.1, s.holding.2) } := by
  have hnew : (⟨k, s.requests⟩ : Thing K) ∉ s.holding.1 :=
    fun hmem => absurd (hs.id_lt _ hmem) (Nat.lt_irrefl _)
  refine ⟨Multiset.nodup_cons.mpr ⟨hnew, hs.nodup⟩, fun r hr => ?_, fun t ht r hr => ?_⟩
  · rcases Multiset.mem_cons.mp hr with rfl | hr
    · exact Nat.lt_succ_self _
    · exact (hs.id_lt r hr).trans (Nat.lt_succ_self _)
  · exact Multiset.mem_cons_of_mem (hs.uses t ht r hr)

/-- A request that changes nothing. -/
theorem State.Valid.refused (hs : s.Valid) :
    State.Valid { s with requests := s.requests + 1 } :=
  ⟨hs.nodup, fun r hr => (hs.id_lt r hr).trans (Nat.lt_succ_self _), hs.uses⟩

theorem Spec.attempt : Spec shared 0 (attempt (K := K)) fun _ => 0 :=
  fun _ _ hs hh _ => ⟨_, _, rfl, hs.refused, hh⟩

/-- What a request for a thing gives. -/
def got {k : K} (h : Option (Handle k)) : Holding K := things (h.toList.map Handle.thing)

theorem cons_add (r : Thing K) (s F : Holding K) (shared : Multiset (Thing K))
    (h : s = 0 + (shared, 0) + F) : (r ::ₘ s.1, s.2) = things [r] + (shared, 0) + F := by
  subst h
  refine Prod.ext ?_ ?_
  · change r ::ₘ (0 + shared + F.1) = {r} + shared + F.1
    rw [zero_add, add_assoc, Multiset.singleton_add]
  · rfl

theorem Spec.adopt (k : K) : Spec shared 0 (adopt k) fun h => things [h.thing] :=
  fun _ _ hs hh _ => ⟨_, _, rfl, hs.cons k, cons_add _ _ _ _ hh⟩

theorem Spec.acquire (k : K) : Spec shared 0 (acquire k) got := by
  intro s F hs hh hF
  unfold Ledger.acquire
  by_cases hrefused : s.refuses s.requests = true
  · rw [if_pos hrefused]
    exact ⟨_, _, rfl, hs.refused, hh⟩
  · rw [if_neg hrefused]
    exact ⟨_, _, rfl, hs.cons k, cons_add _ _ _ _ hh⟩

/-- What a request for a thread gives. -/
def started (uses : List (Thing K)) (id : Option Nat) : Holding K :=
  (0, id.elim 0 fun id => {⟨id, uses⟩})

@[simp] theorem started_none (uses : List (Thing K)) : started uses none = 0 := rfl

variable [DecidableEq K]

/-- **What is given back is used by nobody**, if it was not shared. -/
theorem Spec.release {k : K} (h : Handle k) :
    Spec shared (things [h.thing]) (release h) fun _ => 0 := by
  intro s F hs hh hF
  generalize hr : h.thing = r at hh
  have hthings : s.holding.1 = r ::ₘ (shared + F.1) := by
    rw [hh, ← Multiset.singleton_add]
    exact add_assoc _ _ _
  have hthreads : s.holding.2 = F.2 := by
    rw [hh]
    simp [things]
  have hnodup := hs.nodup
  rw [hthings, Multiset.nodup_cons] at hnodup
  have hunused : ∀ t ∈ s.holding.2, r ∉ t.uses := by
    intro t ht hr
    rw [hthreads] at ht
    refine hnodup.1 (Multiset.mem_add.mpr ?_)
    exact (hF t ht r hr).symm
  have herase : s.holding.1.erase r = shared + F.1 := by
    rw [hthings, Multiset.erase_cons_head]
  subst hr
  refine ⟨(), _, if_pos ⟨hthings ▸ Multiset.mem_cons_self _ _, hunused⟩, ⟨?_, fun r' hr' => ?_,
    fun t ht r' hr' => ?_⟩, ?_⟩
  · exact hs.nodup.erase _
  · exact hs.id_lt r' (Multiset.mem_of_mem_erase hr')
  · refine (Multiset.mem_erase_of_ne ?_).mpr (hs.uses t ht r' hr')
    rintro rfl
    exact hunused t ht hr'
  · refine Prod.ext ?_ ?_
    · simp [herase]
    · simp [hthreads]

/-- **A thread may use what there is**, shared or not. -/
theorem Spec.start {uses : List (Thing K)} (huses : ∀ r ∈ uses, r ∈ P.1 ∨ r ∈ shared) :
    Spec shared P (start uses) fun id => started uses id + P := by
  intro s F hs hh hF
  have hthere : ∀ r ∈ uses, r ∈ s.holding.1 := by
    intro r hr
    rw [hh]
    exact Multiset.mem_add.mpr (Or.inl (Multiset.mem_add.mpr (huses r hr)))
  unfold Ledger.start
  rw [if_pos hthere]
  by_cases hrefused : s.refuses s.requests = true
  · rw [if_pos hrefused]
    refine ⟨_, _, rfl, hs.refused, hh.trans ?_⟩
    dsimp only
    rw [started_none, zero_add]
  · rw [if_neg hrefused]
    refine ⟨_, _, rfl, ⟨hs.nodup, hs.refused.id_lt, fun t ht r hr => ?_⟩, ?_⟩
    · rcases Multiset.mem_cons.mp ht with rfl | ht
      · exact hthere r hr
      · exact hs.uses t ht r hr
    · refine Prod.ext ?_ ?_
      · rw [hh]
        simp [started]
      · rw [hh]
        simp [started, ← Multiset.singleton_add, add_assoc]

theorem Spec.join (t : Thread K) : Spec shared (0, {t}) (join t) fun _ => 0 := by
  intro s F hs hh hF
  have hthreads : s.holding.2 = t ::ₘ F.2 := by
    rw [hh, ← Multiset.singleton_add]
    simp
  refine ⟨(), _, if_pos (hthreads ▸ Multiset.mem_cons_self t _), ⟨hs.nodup, hs.id_lt,
    fun t' ht' => hs.uses t' (Multiset.mem_of_mem_erase ht')⟩, ?_⟩
  refine Prod.ext ?_ ?_
  · rw [hh]
    simp
  · rw [hthreads, Multiset.erase_cons_head]
    simp

/-- What may be there is given back if it is. -/
def releaseIf {k : K} (h : Option (Handle k)) : Program K Unit := h.elim (Pure.pure ()) release

theorem Spec.releaseIf {k : K} (h : Option (Handle k)) :
    Spec shared (got h) (releaseIf h) fun _ => 0 := by
  cases h with
  | none => exact Spec.pure rfl
  | some h => exact Spec.release h

/-- Of what may be there. -/
def ifAny (o : Option α) (A : α → Holding K) : Holding K := o.elim 0 A

omit [DecidableEq K] in
@[simp] theorem ifAny_none (A : α → Holding K) : ifAny none A = 0 := rfl

omit [DecidableEq K] in
@[simp] theorem ifAny_some (a : α) (A : α → Holding K) : ifAny (some a) A = A a := rfl

/-- What may be there is undone. -/
def doIf (o : Option α) (undo : α → Program K Unit) : Program K Unit := o.elim (Pure.pure ()) undo

omit [DecidableEq K] in
theorem Spec.doIf {A : α → Holding K} {undo : α → Program K Unit}
    (h : ∀ a, Spec shared (A a) (undo a) fun _ => 0) (o : Option α) :
    Spec shared (ifAny o A) (doIf o undo) fun _ => 0 := by
  cases o with
  | none => exact Spec.pure rfl
  | some a => exact h a

/-- A thread that may have been started is waited for. -/
def joinIf (uses : List (Thing K)) (id : Option Nat) : Program K Unit :=
  id.elim (Pure.pure ()) fun id => join ⟨id, uses⟩

theorem Spec.joinIf (uses : List (Thing K)) (id : Option Nat) :
    Spec shared (started uses id) (joinIf uses id) fun _ => 0 := by
  cases id with
  | none => exact Spec.pure rfl
  | some id => exact Spec.join _

end Requests

/-! ## Programs that undo what they did -/

section Undo
variable {ε ε' : Type}

/-- What a program has if it did not fail; an error leaves nothing. -/
def held (A : α → Holding K) : Except ε α → Holding K
  | .ok a => A a
  | .error _ => 0

/-- A request beside what there is. -/
theorem Spec.beside {A : α → Holding K} {request : Program K (Except ε α)}
    (h : Spec shared 0 request (held A)) (hP : Closed shared P) :
    Spec shared P request fun r => held A r + P :=
  (h.frame hP).of_eq (zero_add P).symm fun _ => rfl

/-- A request that fails with an error. -/
def orError {k : K} (error : ε) (h : Option (Handle k)) : Except ε (Handle k) :=
  h.elim (.error error) .ok

/-- **A request, and what is undone if it fails.** -/
def orUndo (request : Program K (Except ε α)) (undo : ε → Program K ε')
    (next : α → Program K (Except ε' β)) : Program K (Except ε' β) :=
  request >>= fun
    | .ok a => next a
    | .error e => undo e >>= fun e => Pure.pure (.error e)

/-- **An error leaves nothing**, if what was there before is undone. -/
theorem Spec.orUndo {request : Program K (Except ε α)} {undo : ε → Program K ε'}
    {next : α → Program K (Except ε' β)} {A : α → Holding K} {B : β → Holding K}
    (hrequest : Spec shared P request fun r => held A r + P)
    (hundo : ∀ e, Spec shared P (undo e) fun _ => 0)
    (hnext : ∀ a, Spec shared (A a + P) (next a) (held B)) :
    Spec shared P (orUndo request undo next) (held B) := by
  refine hrequest.bind fun r => ?_
  cases r with
  | ok a => exact hnext a
  | error e =>
    have hfail : Spec shared P (undo e >>= fun e => Pure.pure (.error e)) (held B) :=
      (hundo e).bind fun _ => Spec.pure rfl
    exact hfail.of_eq (zero_add P) fun _ => rfl

/-- A program that leaves nothing and then returns a value. -/
theorem Spec.returns (hx : Spec shared P x fun _ => 0) (b : β) :
    Spec shared P (x >>= fun _ => Pure.pure b) fun _ => 0 :=
  hx.bind fun _ => Spec.pure rfl

/-- The first step, which has nothing to give back. -/
theorem Spec.first {request : Program K (Except ε α)} {next : α → Program K (Except ε β)}
    {A : α → Holding K} {B : β → Holding K} (T : α → Holding K)
    (hrequest : Spec shared 0 request (held A)) (hT : ∀ a, T a = A a)
    (hnext : ∀ a, Spec shared (T a) (next a) (held B)) :
    Spec shared 0 (Ledger.orUndo request Pure.pure next) (held B) := by
  refine Spec.orUndo (hrequest.beside (closed_things [])) (fun _ => Spec.pure rfl) fun a => ?_
  exact (hnext a).of_eq ((add_zero (A a)).trans (hT a).symm) fun _ => rfl

/-- **A step of a program that gives back all it has if the step fails.** -/
theorem Spec.step {request : Program K (Except ε α)} {destroy : Program K Unit} {code : ε → ε'}
    {next : α → Program K (Except ε' β)} {A : α → Holding K} {B : β → Holding K}
    (T : α → Holding K) (hrequest : Spec shared 0 request (held A)) (hP : Closed shared P)
    (hdestroy : Spec shared P destroy fun _ => 0) (hT : ∀ a, T a = A a + P)
    (hnext : ∀ a, Spec shared (T a) (next a) (held B)) :
    Spec shared P (Ledger.orUndo request (fun e => destroy >>= fun _ => Pure.pure (code e)) next)
      (held B) :=
  Spec.orUndo (hrequest.beside hP) (fun _ => hdestroy.returns _) fun a => hT a ▸ hnext a

/-- One after the other, each with what is its own. -/
theorem Spec.andThen {y : Program K β} (hx : Spec shared P x fun _ => 0) (hy : Spec shared P' y R)
    (hclosed : Closed shared P') : Spec shared (P + P') (x >>= fun _ => y) R :=
  (hx.frame hclosed).bind fun _ => hy.of_eq (zero_add P') fun _ => rfl

end Undo

/-! ## A program from the beginning -/

theorem State.valid_start (refuses : Nat → Bool) : State.Valid (K := K) ⟨refuses, 0, 0⟩ :=
  ⟨Multiset.nodup_zero, fun r hr => absurd hr (Multiset.notMem_zero r),
    fun t ht => absurd ht (Multiset.notMem_zero t)⟩

/-- **A program that begins with nothing** does not fail, whatever is refused, and it has in the end
what its triple says. -/
theorem Spec.fromNothing (hx : Spec 0 0 x Q) (refuses : Nat → Bool) :
    ∃ a t, x ⟨refuses, 0, 0⟩ = some (a, t) ∧ t.holding = Q a := by
  obtain ⟨a, t, ht, -, hholding⟩ := hx _ 0 (State.valid_start refuses) rfl (closed_things [])
  exact ⟨a, t, ht, hholding.trans ((add_zero _).trans (add_zero _))⟩

end Ledger
