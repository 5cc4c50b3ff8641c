import SdrModem.Mealy

/-!
# Stages, and calls that refine them

A `Stage` is a function on a stream that can be cut anywhere, with its state.  Stages are
made of machines, and put behind each other they are a stage again.

Code gets a stream in calls, and may keep its state in another way than the stage does: at
every end of a call it may have to move indexes or to put aside what is left.  It `Refines`
the stage if, from states that belong together, a call that is not too long gives the
output of the stage and ends in states that belong together.  Then it makes no difference
where a call ends.  Code that is set up for calls of one length or of another is
`StreamsAlike` if the same stage is behind all of its states.
-/
universe u v w x y

namespace Mealy

/-- A function on a stream. -/
structure Stage (α β : Type) where
  State : Type u
  run : State → List α → State × List β
  streaming : Streaming run

namespace Stage
variable {α β γ : Type}

/-- A machine that answers every input. -/
def object (α β : Type) : Stage α β := ⟨Object α β, Object.process, Object.streaming_process⟩

/-- A machine that answers with any number of outputs. -/
def emitter (α β : Type) : Stage α β :=
  ⟨Object α (List β), Object.emit, Object.streaming_emit⟩

/-- One input after the other. -/
def ofStep {σ : Type u} (step : σ → α → σ × List β) : Stage α β :=
  ⟨σ, steps step, streaming_steps step⟩

/-- A stage that can be left out. -/
def orNot (f : Stage.{u} α α) : Stage α α :=
  ⟨Option f.State, Mealy.optional f.run, f.streaming.optional⟩

/-- The outputs of a stage go into the next one. -/
def andThen (f : Stage.{u} α β) (g : Stage.{v} β γ) : Stage α γ where
  State := f.State × g.State
  run s xs :=
    (((f.run s.1 xs).1, (g.run s.2 (f.run s.1 xs).2).1), (g.run s.2 (f.run s.1 xs).2).2)
  streaming :=
    { nil := fun s => by rw [f.streaming.nil, g.streaming.nil]
      append := fun s xs ys => by simp only [f.streaming.append, g.streaming.append] }

/-- Every output is changed. -/
def map (f : Stage.{u} α β) (h : β → γ) : Stage α γ where
  State := f.State
  run s xs := ((f.run s xs).1, (f.run s xs).2.map h)
  streaming :=
    { nil := fun s => by rw [f.streaming.nil, List.map_nil]
      append := fun s xs ys => by simp only [f.streaming.append, List.map_append] }

end Stage

section Refines
variable {σ : Type u} {α β : Type}

/-- Calls, one after the other, with the outputs joined. -/
def calls (call : σ → List α → Option (σ × List β)) : σ → List (List α) → Option (List β)
  | _, [] => some []
  | s, xs :: xss => (call s xs).bind fun (s, ys) => (calls call s xss).map (ys ++ ·)

/-- Calls, one after the other, with the state that they lead to. -/
def callsTo (call : σ → List α → Option (σ × List β)) :
    σ → List (List α) → Option (σ × List β)
  | s, [] => some (s, [])
  | s, xs :: xss =>
      (call s xs).bind fun (s, ys) => (callsTo call s xss).map fun (t, zs) => (t, ys ++ zs)

theorem calls_eq_callsTo (call : σ → List α → Option (σ × List β)) (s : σ)
    (xss : List (List α)) : calls call s xss = (callsTo call s xss).map Prod.snd := by
  induction xss generalizing s with
  | nil => rfl
  | cons xs xss ih =>
    rw [calls, callsTo, Option.map_bind]
    congr 1
    funext r
    simp only [Function.comp_apply, ih, Option.map_map]
    rfl

/-- One call more. -/
theorem callsTo_concat {call : σ → List α → Option (σ × List β)} {s t : σ}
    {xss : List (List α)} {ys : List β} (h : callsTo call s xss = some (t, ys)) (xs : List α) :
    callsTo call s (xss ++ [xs]) = (call t xs).map fun (u, zs) => (u, ys ++ zs) := by
  induction xss generalizing s ys with
  | nil =>
    cases h
    rw [List.nil_append, callsTo]
    cases call t xs with
    | none => rfl
    | some r => simp [callsTo]
  | cons first xss ih =>
    obtain ⟨⟨u, zs⟩, hu, hrest⟩ := Option.bind_eq_some_iff.mp h
    obtain ⟨⟨v, rest⟩, hv, hpair⟩ := Option.map_eq_some_iff.mp hrest
    cases hpair
    rw [List.cons_append, callsTo, hu, Option.bind_some]
    dsimp only
    rw [ih hv, Option.map_map]
    simp only [Function.comp_def, List.append_assoc]

/-- **Calls of at most `limit` inputs do what the stage does to the stream.** -/
def Refines (call : σ → List α → Option (σ × List β)) (limit : Nat) (stage : Stage.{v} α β)
    (R : σ → stage.State → Prop) : Prop :=
  ∀ s t, R s t → ∀ xs, xs.length ≤ limit →
    ∃ s', call s xs = some (s', (stage.run t xs).2) ∧ R s' (stage.run t xs).1

/-- **Where the calls end makes no difference.** -/
theorem Refines.calls_eq {call : σ → List α → Option (σ × List β)} {limit : Nat}
    {stage : Stage.{v} α β} {R : σ → stage.State → Prop} (h : Refines call limit stage R) {s : σ}
    {t : stage.State} (hst : R s t) {xss : List (List α)} (hxss : ∀ xs ∈ xss, xs.length ≤ limit) :
    calls call s xss = some (stage.run t xss.flatten).2 := by
  induction xss generalizing s t with
  | nil => rw [calls, List.flatten_nil, stage.streaming.nil]
  | cons xs xss ih =>
    obtain ⟨s', hcall, hst'⟩ := h s t hst xs (hxss xs List.mem_cons_self)
    have hrest := ih hst' fun ys hys => hxss ys (List.mem_cons_of_mem _ hys)
    rw [calls, hcall, Option.bind_some, List.flatten_cons, stage.streaming.append]
    dsimp only
    rw [hrest, Option.map_some]

end Refines

/-! ## Code with a stage behind it -/

section Streams
variable {σ : Type u} {α β : Type} {limit : Nat}

/-- There is a stage behind the calls, from this state on. -/
def Streams (call : σ → List α → Option (σ × List β)) (limit : Nat) (s : σ) : Prop :=
  ∃ (stage : Stage.{v} α β) (R : σ → stage.State → Prop) (t : stage.State),
    Refines call limit stage R ∧ R s t

namespace Streams

/-- A stream that is cut in two ways. -/
theorem calls_eq {call : σ → List α → Option (σ × List β)} {s : σ}
    (h : Streams.{u, v} call limit s) {xss yss : List (List α)}
    (hxss : ∀ xs ∈ xss, xs.length ≤ limit) (hyss : ∀ ys ∈ yss, ys.length ≤ limit)
    (hsame : xss.flatten = yss.flatten) :
    ∃ output, calls call s xss = some output ∧ calls call s yss = some output := by
  obtain ⟨stage, R, t, hrefines, hst⟩ := h
  refine ⟨_, hrefines.calls_eq hst hxss, ?_⟩
  rw [hsame]
  exact hrefines.calls_eq hst hyss

end Streams
end Streams

/-! ## The same stage behind several states -/

section StreamsAlike
variable {ι : Type y} {σ : Type u} {τ : Type x} {α β γ : Type} {limit : ι → Nat}

/-- **One stage is behind the calls from each of these states on**, and each has its own limit. -/
def StreamsAlike (call : σ → List α → Option (σ × List β)) (limit : ι → Nat) (s : ι → σ) : Prop :=
  ∃ (stage : Stage.{v} α β) (t : stage.State),
    ∀ i, ∃ R : σ → stage.State → Prop, Refines call (limit i) stage R ∧ R (s i) t

namespace StreamsAlike

theorem streams {call : σ → List α → Option (σ × List β)} {s : ι → σ}
    (h : StreamsAlike.{u, v} call limit s) (i : ι) : Streams.{u, v} call (limit i) (s i) := by
  obtain ⟨stage, t, hstage⟩ := h
  obtain ⟨R, hrefines, hst⟩ := hstage i
  exact ⟨stage, R, t, hrefines, hst⟩

/-- **A stream that is cut for one state and for another.** -/
theorem calls_eq {call : σ → List α → Option (σ × List β)} {s : ι → σ}
    (h : StreamsAlike.{u, v} call limit s) {i j : ι} {xss yss : List (List α)}
    (hxss : ∀ xs ∈ xss, xs.length ≤ limit i) (hyss : ∀ ys ∈ yss, ys.length ≤ limit j)
    (hsame : xss.flatten = yss.flatten) :
    ∃ output, calls call (s i) xss = some output ∧ calls call (s j) yss = some output := by
  obtain ⟨stage, t, hstage⟩ := h
  obtain ⟨R, hrefines, hst⟩ := hstage i
  obtain ⟨R', hrefines', hst'⟩ := hstage j
  refine ⟨_, hrefines.calls_eq hst hxss, ?_⟩
  rw [hsame]
  exact hrefines'.calls_eq hst' hyss

/-- Code that has the state of a stage in its own. -/
theorem of_run {call : σ → List α → Option (σ × List β)} (stage : Stage.{v} α β)
    (mk : ι → stage.State → σ)
    (hcall : ∀ i t xs, xs.length ≤ limit i →
      call (mk i t) xs = some (mk i (stage.run t xs).1, (stage.run t xs).2)) (t : stage.State) :
    StreamsAlike.{u, v} call limit fun i => mk i t := by
  refine ⟨stage, t, fun i => ⟨fun s t => s = mk i t, ?_, rfl⟩⟩
  rintro s t rfl xs hxs
  exact ⟨_, hcall i t xs hxs, rfl⟩

/-- Code that hands the outputs of a stage to other code.  The stage keeps an invariant, and
its outputs are short enough for the other code. -/
theorem andThen {call : σ → List α → Option (σ × List γ)}
    {next : τ → List β → Option (τ × List γ)} {limit' : ι → Nat} (stage : Stage.{v} α β)
    (I : stage.State → Prop)
    (hstage : ∀ i r, I r → ∀ xs, xs.length ≤ limit i →
      I (stage.run r xs).1 ∧ (stage.run r xs).2.length ≤ limit' i)
    (mk : ι → stage.State → τ → σ)
    (hcall : ∀ i r t, I r → ∀ xs, xs.length ≤ limit i →
      call (mk i r t) xs = (next t (stage.run r xs).2).map (Prod.map (mk i (stage.run r xs).1) id))
    {r : stage.State} {t : ι → τ} (hr : I r) (hnext : StreamsAlike.{x, w} next limit' t) :
    StreamsAlike.{u, max v w} call limit fun i => mk i r (t i) := by
  obtain ⟨behind, b, hbehind⟩ := hnext
  refine ⟨stage.andThen behind, (r, b), fun i => ?_⟩
  obtain ⟨R, hrefines, htb⟩ := hbehind i
  refine ⟨fun s q => ∃ t, s = mk i q.1 t ∧ I q.1 ∧ R t q.2, ?_, t i, rfl, hr, htb⟩
  rintro s ⟨r, b⟩ ⟨t, rfl, hr, htb⟩ xs hxs
  obtain ⟨hr', hlength⟩ := hstage i r hr xs hxs
  obtain ⟨t', hnext, htb'⟩ := hrefines t b htb _ hlength
  refine ⟨mk i (stage.run r xs).1 t', ?_, t', rfl, hr', htb'⟩
  rw [hcall i r t hr xs hxs, hnext, Option.map_some]
  rfl

/-- Code in a wrapper. -/
theorem wrap {call : σ → List α → Option (σ × List β)} {next : τ → List α → Option (τ × List β)}
    (mk : τ → σ) (hcall : ∀ t xs, call (mk t) xs = (next t xs).map (Prod.map mk id))
    {t : ι → τ} (hnext : StreamsAlike.{x, v} next limit t) :
    StreamsAlike.{u, v} call limit fun i => mk (t i) := by
  obtain ⟨behind, b, hbehind⟩ := hnext
  refine ⟨behind, b, fun i => ?_⟩
  obtain ⟨R, hrefines, htb⟩ := hbehind i
  refine ⟨fun s b => ∃ t, s = mk t ∧ R t b, ?_, t i, rfl, htb⟩
  rintro s b ⟨t, rfl, htb⟩ xs hxs
  obtain ⟨t', hnext, htb'⟩ := hrefines t b htb xs hxs
  refine ⟨mk t', ?_, t', rfl, htb'⟩
  rw [hcall, hnext, Option.map_some]
  rfl

end StreamsAlike
end StreamsAlike
end Mealy
